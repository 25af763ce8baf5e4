import ScreenRoutes.CommandLine.Run
import ScreenRoutes.Proofs.FileStore.Disk

/-!
# What a run that generates files leaves behind

Where no file is beyond reach and the output paths denote different files, each of these files has
the contents of its screen in the end, and no other file is touched. A file that was written is not
disturbed by those that follow, so what a path reads as when its turn comes is what it read as at
first, and a second run finds everything in place: it writes nothing.
-/

namespace ScreenRoutes

open Text

def Outcome.file? (o : Outcome) : Option GeneratedFile :=
  o.result.toOption

/-- The paths at which the files of outcomes stand below a directory. -/
def outputPaths (out : String) (outcomes : List Outcome) : List String :=
  (outcomes.filterMap Outcome.file?).map fun file => joinPath out file.path

/-- The line about a screen whose file is written, by what becomes of a path that is to have certain
contents. -/
def Outcome.generateLine (colored : Bool) (out : String) (status : String → String → WriteStatus)
    (o : Outcome) : String :=
  match o.result with
  | .ok file =>
    (status (joinPath out file.path) file.contents).line colored (joinPath out file.path)
  | .error fault => faultLine colored fault

section

variable {σ Place : Type} {files : FileStore (StateM σ)} {v : FileStore.View σ Place}
  {colored : Bool} {path out : String} {outcomes : List Outcome} {o : Outcome} {lines : List String}
  {s s' : σ}

open FileStore

theorem outputPaths_cons_error {fault : GenerationFault} (ho : o.result = .error fault) :
    outputPaths out (o :: outcomes) = outputPaths out outcomes := by
  rw [outputPaths, List.filterMap_cons_none (by rw [Outcome.file?, ho]; rfl), outputPaths]

theorem outputPaths_cons_ok {file : GeneratedFile} (ho : o.result = .ok file) :
    outputPaths out (o :: outcomes) = joinPath out file.path :: outputPaths out outcomes := by
  rw [outputPaths, List.filterMap_cons_some (by rw [Outcome.file?, ho]; rfl), List.map_cons,
    outputPaths]

theorem mem_outputPaths {file : GeneratedFile} (ho : o ∈ outcomes) (hfile : o.result = .ok file) :
    joinPath out file.path ∈ outputPaths out outcomes :=
  List.mem_map_of_mem (List.mem_filterMap.2 ⟨o, ho, by rw [Outcome.file?, hfile]; rfl⟩)

variable {status status' : String → String → WriteStatus}

theorem Outcome.generateLine_error {fault : GenerationFault} (ho : o.result = .error fault) :
    o.generateLine colored out status = faultLine colored fault := by
  rw [Outcome.generateLine, ho]

theorem Outcome.generateLine_ok {file : GeneratedFile} (ho : o.result = .ok file) :
    o.generateLine colored out status =
      (status (joinPath out file.path) file.contents).line colored (joinPath out file.path) := by
  rw [Outcome.generateLine, ho]

theorem map_generateLine_congr (h : ∀ p ∈ outputPaths out outcomes, status p = status' p) :
    outcomes.map (·.generateLine colored out status) =
      outcomes.map (·.generateLine colored out status') := by
  refine List.map_congr_left fun o ho => ?_
  cases hresult : o.result with
  | error fault => rw [Outcome.generateLine_error hresult, Outcome.generateLine_error hresult]
  | ok file =>
    rw [Outcome.generateLine_ok hresult, Outcome.generateLine_ok hresult,
      h _ (mem_outputPaths ho hresult)]

/-! ## One outcome -/

theorem exists_of_writeOutcomes_error {fault : GenerationFault} (ho : o.result = .error fault)
    (h : (writeOutcomes files colored out (o :: outcomes)).run s = ((lines, none), s')) :
    ∃ lines', lines = faultLine colored fault :: lines' ∧
      (writeOutcomes files colored out outcomes).run s = ((lines', none), s') := by
  rw [writeOutcomes, ho] at h
  obtain ⟨⟨lines', stop⟩, s₁, hrest, h⟩ := exists_of_run_bind h
  obtain ⟨hlines, rfl⟩ := Prod.mk.inj h
  obtain ⟨rfl, rfl⟩ := Prod.mk.inj hlines
  exact ⟨lines', rfl, hrest⟩

theorem exists_of_writeOutcomes_ok {file : GeneratedFile} (ho : o.result = .ok file)
    (h : (writeOutcomes files colored out (o :: outcomes)).run s = ((lines, none), s')) :
    ∃ status s₁ lines',
      (files.writeIfChanged (joinPath out file.path) file.contents).run s = (.ok status, s₁) ∧
      (writeOutcomes files colored out outcomes).run s₁ = ((lines', none), s') ∧
      lines = status.line colored (joinPath out file.path) :: lines' := by
  rw [writeOutcomes, ho] at h
  obtain ⟨result, s₁, hwrite, h⟩ := exists_of_run_bind h
  cases result with
  | error fault => cases (Prod.mk.inj (Prod.mk.inj h).1).2
  | ok status =>
    obtain ⟨⟨lines', stop⟩, s₂, hrest, h⟩ := exists_of_run_bind h
    obtain ⟨hlines, rfl⟩ := Prod.mk.inj h
    obtain ⟨rfl, rfl⟩ := Prod.mk.inj hlines
    exact ⟨status, s₁, lines', hwrite, hrest, rfl⟩

/-! ## All outcomes -/

/-- No file changes but those to which the output paths lead in the end. -/
theorem writeOutcomes_keeps (hv : v.Faithful files)
    (h : (writeOutcomes files colored out outcomes).run s = ((lines, none), s')) :
    v.Keeps ((outputPaths out outcomes).filterMap (v.place? s')) s s' := by
  induction outcomes generalizing s lines with
  | nil =>
    obtain ⟨-, rfl⟩ := Prod.mk.inj h
    exact .refl v _ s
  | cons o outcomes ih =>
    cases ho : o.result with
    | error fault =>
      obtain ⟨lines', -, hrest⟩ := exists_of_writeOutcomes_error ho h
      rw [outputPaths_cons_error ho]
      exact ih hrest
    | ok file =>
      obtain ⟨status, s₁, lines', hwrite, hrest, -⟩ := exists_of_writeOutcomes_ok ho h
      obtain ⟨-, f, hf, hkeeps⟩ := hv.of_writeIfChanged hwrite
      have hlater := ih hrest
      rw [outputPaths_cons_ok ho, List.filterMap_cons_some (hlater.place hf.place)]
      exact hkeeps.trans hlater

/-- **What writing outcomes comes to**, where the output paths denote different files: each file
has its contents in the end, and the lines tell what its text was at first. -/
theorem writeOutcomes_effect (hv : v.Faithful files)
    (h : (writeOutcomes files colored out outcomes).run s = ((lines, none), s'))
    {place : String → Place} (hplaces : ∀ p ∈ outputPaths out outcomes, v.Denotes s s' p (place p))
    (hdistinct : ((outputPaths out outcomes).map place).Nodup) :
    (∀ o ∈ outcomes, ∀ file, o.result = .ok file →
      v.Stands s' (joinPath out file.path) file.contents (place (joinPath out file.path))) ∧
    lines = outcomes.map
      (·.generateLine colored out fun p contents => .over contents (v.textAt? s (place p))) := by
  induction outcomes generalizing s lines with
  | nil =>
    obtain ⟨hlines, -⟩ := Prod.mk.inj h
    exact ⟨nofun, (Prod.mk.inj hlines).1.symm⟩
  | cons o outcomes ih =>
    cases ho : o.result with
    | error fault =>
      obtain ⟨lines', rfl, hrest⟩ := exists_of_writeOutcomes_error ho h
      rw [outputPaths_cons_error ho] at hplaces hdistinct
      obtain ⟨hfiles, rfl⟩ := ih hrest hplaces hdistinct
      refine ⟨List.forall_mem_cons.2 ⟨fun file hfile => ?_, hfiles⟩, ?_⟩
      · cases ho.symm.trans hfile
      · rw [List.map_cons, Outcome.generateLine_error ho]
    | ok file =>
      obtain ⟨status, s₁, lines', hwrite, hrest, rfl⟩ := exists_of_writeOutcomes_ok ho h
      rw [outputPaths_cons_ok ho] at hplaces hdistinct
      rw [List.map_cons, List.nodup_cons] at hdistinct
      rw [List.forall_mem_cons] at hplaces
      obtain ⟨rfl, f, hf, hkeeps⟩ := hv.of_writeIfChanged hwrite
      have hlater := writeOutcomes_keeps hv hrest
      obtain rfl : f = place (joinPath out file.path) :=
        Option.some.inj ((hlater.place hf.place).symm.trans hplaces.1.place)
      rw [View.filterMap_place? hplaces.2] at hlater
      -- The file written just now is none of those that follow, so each of these is as it was.
      have hne : ∀ p ∈ outputPaths out outcomes, place p ∉ [place (joinPath out file.path)] :=
        fun p hp hmem => hdistinct.1 (List.mem_singleton.1 hmem ▸ List.mem_map_of_mem hp)
      obtain ⟨hfiles, rfl⟩ :=
        ih hrest (fun p hp => (hplaces.2 p hp).later hkeeps (hne p hp)) hdistinct.2
      refine ⟨List.forall_mem_cons.2 ⟨fun file' hfile => ?_, hfiles⟩, ?_⟩
      · obtain rfl := Except.ok.inj (ho.symm.trans hfile)
        exact hf.keeps hlater hdistinct.1
      · rw [List.map_cons, Outcome.generateLine_ok ho, hplaces.1.text? (hkeeps.trans hlater)]
        exact congrArg _ (map_generateLine_congr fun p hp => funext fun contents => by
          rw [View.textAt?, hkeeps.bytes (hne p hp), View.textAt?])

/-- Outcomes whose files all stand already are written without a write: it does not matter what the
operations other than reading do. -/
theorem writeOutcomes_settled (hread : ∀ p, (files.read p).run s = (v.text? s p, s))
    (h : ∀ o ∈ outcomes, ∀ file, o.result = .ok file →
      v.text? s (joinPath out file.path) = some file.contents) :
    (writeOutcomes files colored out outcomes).run s =
      ((outcomes.map (·.generateLine colored out fun _ _ => .unchanged), none), s) := by
  induction outcomes with
  | nil => rfl
  | cons o outcomes ih =>
    rw [List.forall_mem_cons] at h
    cases ho : o.result with
    | error fault =>
      rw [writeOutcomes, ho]
      dsimp only
      rw [StateT.run_bind, ih h.2, List.map_cons, Outcome.generateLine_error ho]
      rfl
    | ok file =>
      have hskip : (files.writeIfChanged (joinPath out file.path) file.contents).run s =
          (.ok .unchanged, s) := by
        rw [FileStore.writeIfChanged, StateT.run_bind, hread, h.1 file ho]
        exact congrArg (StateT.run · s) (if_pos rfl)
      rw [writeOutcomes, ho]
      dsimp only
      rw [StateT.run_bind, hskip]
      change (writeOutcomes files colored out outcomes >>= _).run s = _
      rw [StateT.run_bind, ih h.2, List.map_cons, Outcome.generateLine_ok ho]
      rfl

/-! ## The whole run -/

variable {manifest : Manifest} {report : Report}

theorem exists_of_load (hread : (files.read path).run s = (v.text? s path, s))
    (h : ((Manifest.load files path).run s).1 = .ok manifest) :
    ∃ text, v.text? s path = some text ∧ Manifest.read? text = some manifest := by
  obtain ⟨found, s₁, hfound, h⟩ := exists_of_run_bind (Prod.ext h rfl)
  obtain ⟨htext, rfl⟩ := Prod.mk.inj (hread.symm.trans hfound)
  cases found with
  | none => cases (Prod.mk.inj h).1
  | some text =>
    dsimp only at h
    split at h
    · cases (Prod.mk.inj h).1
    · next manifest' hmanifest =>
      obtain rfl := Except.ok.inj (Prod.mk.inj h).1
      exact ⟨text, htext, hmanifest⟩

/-- A run reads the manifest and goes on from the state in which it was started. -/
theorem run_of_text (hread : (files.read path).run s = (v.text? s path, s)) {text : String}
    (htext : v.text? s path = some text) (hmanifest : Manifest.read? text = some manifest) :
    ((Action.generate out).run files colored path).run s =
      (manifest.generate files colored out).run s := by
  have hload : (Manifest.load files path).run s = (.ok manifest, s) := by
    rw [Manifest.load, StateT.run_bind, hread, htext]
    dsimp only [StateT.run, bind]
    rw [hmanifest]
    rfl
  rw [Action.run, StateT.run_bind, hload]
  rfl

theorem isSome_screensFailed :
    (screensFailed outcomes).isSome ↔ ∃ o ∈ outcomes, o.isOk = false := by
  have hcount : outcomes.countP (!·.isOk) = 0 ↔ ¬ ∃ o ∈ outcomes, o.isOk = false := by
    simp [List.countP_eq_zero]
  rw [screensFailed]
  split
  · next h => simpa using hcount.1 h
  · next h => simpa using mt hcount.2 h

/-- A run stops at a file that cannot be written, or writes all of them. -/
theorem exists_of_generate
    (h : (manifest.generate files colored out).run s = (report, s'))
    (hio : ∀ fault : WriteFault, report.failure ≠ some fault.message) :
    ∃ lines, (writeOutcomes files colored out manifest.outcomes).run s = ((lines, none), s') ∧
      report = ⟨manifest.log, lines, screensFailed manifest.outcomes⟩ := by
  obtain ⟨⟨lines, stop⟩, s₁, hwritten, h⟩ := exists_of_run_bind h
  obtain ⟨rfl, rfl⟩ := Prod.mk.inj h
  cases stop with
  | some fault => exact absurd rfl (hio fault)
  | none => exact ⟨lines, hwritten, rfl⟩

/-- **A run has exactly the effect that is asked for, and a second one has none.** Where no file is
beyond reach and the output paths denote different files, none of them the manifest, the file of
each screen that can be generated has its contents in the end; every other file is as it was; the
lines tell which files were created, updated and skipped by the text they had at first; and the run
fails if and only if a screen does. Run once more, whatever its operations other than reading do, it
leaves the state alone and skips all files. -/
theorem generate_effect (hv : v.Faithful files)
    (hload : ((Manifest.load files path).run s).1 = .ok manifest)
    (hrun : ((Action.generate out).run files colored path).run s = (report, s'))
    (hio : ∀ fault : WriteFault, report.failure ≠ some fault.message)
    {place : String → Place}
    (hplaces : ∀ p ∈ outputPaths out manifest.outcomes, v.Denotes s s' p (place p))
    (hdistinct : ((outputPaths out manifest.outcomes).map place).Nodup)
    (hmanifest : ∀ p ∈ outputPaths out manifest.outcomes, v.place? s path ≠ some (place p)) :
    (∀ o ∈ manifest.outcomes, ∀ file, o.result = .ok file →
      v.Stands s' (joinPath out file.path) file.contents (place (joinPath out file.path))) ∧
    (∀ f ∉ (outputPaths out manifest.outcomes).map place, v.bytes? s' f = v.bytes? s f) ∧
    report.lines = manifest.outcomes.map
      (·.generateLine colored out fun p contents => .over contents (v.textAt? s (place p))) ∧
    (report.failure.isSome ↔ ∃ o ∈ manifest.outcomes, o.isOk = false) ∧
    ∀ makeDirs write,
      ((Action.generate out).run ⟨files.read, makeDirs, write⟩ colored path).run s' =
        (⟨report.log, manifest.outcomes.map (·.generateLine colored out fun _ _ => .unchanged),
          report.failure⟩, s') := by
  obtain ⟨text, htext, hread⟩ := exists_of_load (hv.read s path) hload
  rw [run_of_text (hv.read s path) htext hread] at hrun
  obtain ⟨lines, hwritten, rfl⟩ := exists_of_generate hrun hio
  obtain ⟨hfiles, rfl⟩ := writeOutcomes_effect hv hwritten hplaces hdistinct
  have hkeeps := writeOutcomes_keeps hv hwritten
  rw [View.filterMap_place? hplaces] at hkeeps
  refine ⟨hfiles, fun _ => hkeeps.bytes, rfl, isSome_screensFailed, fun makeDirs write => ?_⟩
  -- The manifest reads as before, and all files stand.
  have hagain : v.text? s' path = some text := by
    obtain ⟨f, hf⟩ := View.stands_of_text? htext
    refine (hf.keeps hkeeps fun hmem => ?_).text?
    obtain ⟨p, hp, rfl⟩ := List.mem_map.1 hmem
    exact hmanifest p hp hf.place
  have hreads (p : String) :
      ((⟨files.read, makeDirs, write⟩ : FileStore (StateM σ)).read p).run s' = (v.text? s' p, s') :=
    hv.read s' p
  rw [run_of_text (hreads path) hagain hread, Manifest.generate, StateT.run_bind,
    writeOutcomes_settled hreads fun o ho file hfile => (hfiles o ho file hfile).text?]
  rfl

end

theorem WriteFault.head?_message (fault : WriteFault) : fault.message.toList.head? = some 'C' := by
  have hdirectory : "Cannot create dir ".toList.head? = some 'C' := by decide +kernel
  have hfile : "Cannot write ".toList.head? = some 'C' := by decide +kernel
  cases fault with
  | directory path =>
    change ("Cannot create dir " ++ path).toList.head? = _
    rw [String.toList_append, List.head?_append, hdirectory, Option.some_or]
  | file path =>
    change ("Cannot write " ++ path).toList.head? = _
    rw [String.toList_append, List.head?_append, hfile, Option.some_or]

/-- A disk with a manifest of three screens, the last of which asks for the file of the first, and
an old file for the second. -/
def homeDisk : Disk :=
  let manifest :=
    "[[screen]]\npackage = \"app\"\nfunction = \"Home\"\nroute = \"home\"\n" ++
    "[[screen]]\npackage = \"ui\"\nfunction = \"Show\"\nroute = \"show\"\n" ++
    "[[screen]]\npackage = \"app\"\nfunction = \"Main\"\nroute = \"home\"\n"
  let shown := DiskNode.directory [("NavGenShow.kt", .file (utf8Bytes "package ui"))]
  ⟨[("navgen.toml", .file (utf8Bytes manifest)), ("gen", .directory [("ui", shown)])], []⟩

/-- The first of two screens that ask for one file gets it, in a directory made for it, and the
screen with the old file a new one; no other file changes, and the second run skips both. -/
theorem generate_effect_home :
    let home := "gen/app/NavGenHome.kt"
    let shown := "gen/ui/NavGenShow.kt"
    let fault := "  error: `Main` would overwrite `app/NavGenHome.kt`, already generated for `Home`"
    ∃ report d,
      ((Action.generate "gen").run diskStore false "navgen.toml").run homeDisk = (report, d) ∧
      report.lines = ["  create: " ++ home, "  update: " ++ shown, fault] ∧
      (∀ names ∉ [splitPath home.toList, splitPath shown.toList],
        Disk.view.bytes? d names = Disk.view.bytes? homeDisk names) ∧
      ∀ makeDirs write,
        ((Action.generate "gen").run ⟨diskStore.read, makeDirs, write⟩ false "navgen.toml").run d =
          (⟨report.log, ["  skip: " ++ home, "  skip: " ++ shown, fault], report.failure⟩, d) := by
  intro home shown fault
  -- The manifest is read once; its paths, both runs and what the first one leaves come of that.
  have hloaded : ((Manifest.load diskStore "navgen.toml").run homeDisk).1.toOption.map (fun m =>
      let first := (m.generate diskStore false "gen").run homeDisk
      ([outputPaths "gen" m.outcomes, first.1.lines,
          m.outcomes.map (·.generateLine false "gen" fun _ _ => .unchanged)],
        first.1.failure, [home, shown].map (Disk.view.place? first.2))) =
      some ([[home, shown], ["  create: " ++ home, "  update: " ++ shown, fault],
          ["  skip: " ++ home, "  skip: " ++ shown, fault]],
        some "1 of 3 screen(s) failed", [home, shown].map fun p => some (splitPath p.toList)) := by
    decide +kernel
  have hnew : Disk.view.bytes? homeDisk (splitPath home.toList) = none := by decide +kernel
  have hold : Disk.view.place? homeDisk shown = some (splitPath shown.toList) := by decide +kernel
  have hmanifest : ∀ p ∈ [home, shown],
      Disk.view.place? homeDisk "navgen.toml" ≠ some (splitPath p.toList) := by decide +kernel
  have hread := Disk.view_faithful.read homeDisk "navgen.toml"
  cases hload : ((Manifest.load diskStore "navgen.toml").run homeDisk).1 with
  | error message => rw [hload] at hloaded; cases hloaded
  | ok manifest =>
    rw [hload] at hloaded
    obtain ⟨text, htext, hmanifestText⟩ := exists_of_load hread hload
    cases hrun : ((Action.generate "gen").run diskStore false "navgen.toml").run homeDisk with
    | mk report d =>
      have hgenerate := (run_of_text hread htext hmanifestText).symm.trans hrun
      simp only [Except.toOption, Option.map_some, hgenerate, Option.some.injEq, Prod.mk.injEq,
        List.cons.injEq, List.map_cons, List.map_nil, and_true] at hloaded
      obtain ⟨⟨hpaths, hlines, hskips⟩, hfailure, hhome, hshown⟩ := hloaded
      have hio (stop : WriteFault) : report.failure ≠ some stop.message := fun h => by
        have hhead := stop.head?_message
        rw [← Option.some.inj (hfailure.symm.trans h)] at hhead
        exact absurd hhead (by decide +kernel)
      have hplaces : ∀ p ∈ outputPaths "gen" manifest.outcomes,
          Disk.view.Denotes homeDisk d p (splitPath p.toList) := by
        rw [hpaths, List.forall_mem_cons, List.forall_mem_singleton]
        exact ⟨⟨hhome, .inr hnew⟩, ⟨hshown, .inl hold⟩⟩
      obtain ⟨-, hothers, -, -, hagain⟩ :=
        generate_effect Disk.view_faithful hload hrun hio hplaces
          (by rw [hpaths]; decide +kernel) (by rw [hpaths]; exact hmanifest)
      rw [hskips] at hagain
      rw [hpaths] at hothers
      exact ⟨report, d, rfl, hlines, hothers, hagain⟩

end ScreenRoutes
