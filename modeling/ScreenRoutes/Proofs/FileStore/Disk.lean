import ScreenRoutes.FileStore.Disk
import ScreenRoutes.Proofs.Assoc
import ScreenRoutes.Proofs.FileStore.View

/-!
# The disk as a file store

A place on a disk is the list of names that lead to it from the root. Putting something into a
directory changes what stands at that one place, however deep it is: the directories on the way up
from it are put back with all else that is in them. A directory is never removed, so a path that
leads to a place leads there for good. The disk is thus faithful to the view that shows its files by
place (`view_faithful`).
-/

namespace ScreenRoutes

open Text

/-- What stands at the place that names lead to. -/
def DiskNode.at? : DiskNode → List String → Option DiskNode
  | node, [] => some node
  | .directory entries, name :: names => (entries.lookup name).bind (·.at? names)
  | .file _, _ :: _ => none

def DiskNode.bytes? : DiskNode → Option (List UInt8)
  | .file bytes => some bytes
  | .directory _ => none

def DiskNode.isDirectory : DiskNode → Bool
  | .file _ => false
  | .directory _ => true

/-- The names that lead to the directory from the root. -/
def Spot.location (s : Spot) : List String :=
  (s.above.map Prod.fst).reverse

theorem DiskNode.bind_at?_nil (node : Option DiskNode) : node.bind (·.at? []) = node := by
  cases node <;> rfl

/-! ## What is retained -/

/-- What stood at a place is a directory if it was one, and has the bytes that it had if nothing was
written there. -/
structure Retained (written : Prop) (old new : Option DiskNode) : Prop where
  directory : old.any DiskNode.isDirectory = true → new.any DiskNode.isDirectory = true
  bytes : ¬ written → new.bind DiskNode.bytes? = old.bind DiskNode.bytes?

theorem Retained.refl (written : Prop) (node : Option DiskNode) : Retained written node node :=
  ⟨id, fun _ => rfl⟩

namespace DiskNode

variable {places others : List (List String)} {old new node : DiskNode} {entries : DiskEntries}
  {name : String}

/-- All that stands below a node is retained in another, except for the bytes at `places`. -/
def Retains (places : List (List String)) (old new : DiskNode) : Prop :=
  ∀ names, Retained (names ∈ places) (old.at? names) (new.at? names)

theorem Retains.refl (places : List (List String)) (node : DiskNode) : node.Retains places node :=
  fun _ => .refl _ _

theorem Retains.trans {third : DiskNode} (h : old.Retains places new)
    (h' : new.Retains others third) : old.Retains (places ++ others) third := fun names =>
  ⟨fun hold => (h' names).directory ((h names).directory hold), fun hnot => by
    rw [List.mem_append, not_or] at hnot
    rw [(h' names).bytes hnot.2, (h names).bytes hnot.1]⟩

/-- Putting a node into a directory retains all but what is put, and what is put retains what it
stands in place of. -/
theorem retains_put
    (h : ∀ names, Retained (name :: names ∈ places)
      ((entries.lookup name).bind (·.at? names)) (node.at? names)) :
    (directory entries).Retains places (directory (Assoc.put name node entries)) := by
  rintro (- | ⟨other, names⟩)
  · exact ⟨id, fun _ => rfl⟩
  · rw [at?, at?]
    by_cases hother : other = name
    · subst hother
      rw [Assoc.lookup_put_self]
      exact h names
    · rw [Assoc.lookup_put_of_ne hother]
      exact .refl _ _

/-- What is retained in a directory is retained in the directory around it. -/
theorem Retains.around (h : old.Retains places new) (name : String) (entries : DiskEntries) :
    (directory (Assoc.put name old entries)).Retains (places.map (name :: ·))
      (directory (Assoc.put name new entries)) := by
  rintro (- | ⟨other, names⟩)
  · exact ⟨id, fun _ => rfl⟩
  · rw [at?, at?]
    by_cases hother : other = name
    · subst hother
      rw [Assoc.lookup_put_self, Assoc.lookup_put_self]
      exact ⟨(h names).directory, fun hnot =>
        (h names).bytes fun hmem => hnot (List.mem_map_of_mem hmem)⟩
    · rw [Assoc.lookup_put_of_ne hother, Assoc.lookup_put_of_ne hother]
      exact .refl _ _

end DiskNode

namespace Spot

variable {s s' t : Spot} {part : String} {places : List (List String)}

@[simp] theorem location_cons (entries : DiskEntries) (name : String) (around : DiskEntries)
    (above : List (String × DiskEntries)) :
    location ⟨entries, (name, around) :: above⟩ = location ⟨around, above⟩ ++ [name] := by
  simp [location]

/-! ## Seen from the root -/

/-- What is below a directory is below the root at the place of the directory. -/
theorem at?_root (s : Spot) (names : List String) :
    (DiskNode.directory s.root).at? (s.location ++ names) =
      (DiskNode.directory s.entries).at? names := by
  obtain ⟨entries, above⟩ := s
  induction above generalizing entries names with
  | nil => rfl
  | cons entry above ih =>
    obtain ⟨name, around⟩ := entry
    rw [location_cons, List.append_assoc]
    refine (ih ([name] ++ names) _).trans ?_
    rw [List.singleton_append, DiskNode.at?, Assoc.lookup_put_self, Option.bind_some]

/-- What is retained in a directory is retained in the root. -/
theorem retains_root {entries entries' : DiskEntries} {above : List (String × DiskEntries)}
    (h : (DiskNode.directory entries).Retains places (.directory entries')) :
    (DiskNode.directory (rootEntries entries above)).Retains
      (places.map (location ⟨entries, above⟩ ++ ·)) (.directory (rootEntries entries' above)) := by
  induction above generalizing entries entries' places with
  | nil => simpa [location, rootEntries] using h
  | cons entry above ih =>
    obtain ⟨name, around⟩ := entry
    have hroot := ih (h.around name around)
    rw [List.map_map] at hroot
    simpa [Function.comp_def, location, rootEntries] using hroot

/-! ## Entering directories -/

/-- Whichever way a part leads, the root stays the same. -/
theorem root_enter (h : s.enter part = .ok t) : t.root = s.root := by
  rw [enter] at h
  split at h
  · obtain rfl := Except.ok.inj h
    rfl
  split at h
  · obtain rfl := Except.ok.inj h
    rw [up]
    split <;> simp only [root, rootEntries, *]
  · split at h
    · next entries hlookup =>
      obtain rfl := Except.ok.inj h
      rw [root, rootEntries, Assoc.put_of_lookup hlookup, root]
    · cases h
    · cases h

theorem location_up (s : Spot) : s.up.location = s.location.dropLast := by
  rw [up]
  split
  · next h => simp [location, h]
  · next h => simp [location, h]

theorem lookup_of_location {name : String} (s : Spot) :
    (DiskNode.directory s.root).at? (s.location ++ [name]) = s.entries.lookup name := by
  rw [at?_root, DiskNode.at?, DiskNode.bind_at?_nil]

/-- Where directories are retained, each can be entered as before. -/
theorem enter_retains (hroot : (DiskNode.directory s.root).Retains places (.directory s'.root))
    (hloc : s'.location = s.location) (h : s.enter part = .ok t) :
    ∃ t', s'.enter part = .ok t' ∧ t'.location = t.location := by
  rw [enter] at h ⊢
  split at h
  · next hidle =>
    obtain rfl := Except.ok.inj h
    exact ⟨s', if_pos hidle, hloc⟩
  next hidle =>
  rw [if_neg hidle]
  split at h
  · next hup =>
    obtain rfl := Except.ok.inj h
    exact ⟨s'.up, if_pos hup, by rw [location_up, location_up, hloc]⟩
  next hup =>
  rw [if_neg hup]
  split at h
  · next entries hlookup =>
    obtain rfl := Except.ok.inj h
    have hdirectory := (hroot (s.location ++ [part])).directory
    rw [lookup_of_location, hlookup, ← hloc, lookup_of_location] at hdirectory
    split
    · exact ⟨_, rfl, by simp [location_cons, hloc]⟩
    · next hfile => simp [hfile, DiskNode.isDirectory] at hdirectory
    · next hnone => simp [hnone, DiskNode.isDirectory] at hdirectory
  · cases h
  · cases h

/-- Where directories are retained, all can be entered one after the other as before. -/
theorem enterAll_retains {parts : List String}
    (hroot : (DiskNode.directory s.root).Retains places (.directory s'.root))
    (hloc : s'.location = s.location) (h : parts.foldlM enter s = .ok t) :
    t.root = s.root ∧ ∃ t', parts.foldlM enter s' = .ok t' ∧ t'.root = s'.root ∧
      t'.location = t.location := by
  induction parts generalizing s s' with
  | nil =>
    obtain rfl := Except.ok.inj h
    exact ⟨rfl, s', rfl, rfl, hloc⟩
  | cons part parts ih =>
    rw [List.foldlM_cons] at h
    cases hs : s.enter part with
    | error fault => rw [hs] at h; cases h
    | ok s₁ =>
      rw [hs] at h
      obtain ⟨s₁', hs', hloc'⟩ := enter_retains hroot hloc hs
      obtain ⟨ht, t', ht', hroot', hlocation⟩ := ih (by rwa [root_enter hs, root_enter hs']) hloc' h
      refine ⟨ht.trans (root_enter hs), t', ?_, hroot'.trans (root_enter hs'), hlocation⟩
      rw [List.foldlM_cons, hs']
      exact ht'

end Spot

namespace Disk

variable {d d' d'' : Disk} {s : Spot} {rooted : Bool} {parts : List String} {path name : String}
  {bytes : List UInt8} {places others : List (List String)}

/-- The disk starts relative paths where it did, and retains all but the bytes at `places`. -/
structure Retains (places : List (List String)) (d d' : Disk) : Prop where
  home : d'.home = d.home
  root : (DiskNode.directory d.root).Retains places (.directory d'.root)

theorem Retains.refl (places : List (List String)) (d : Disk) : d.Retains places d :=
  ⟨rfl, .refl places _⟩

theorem Retains.trans (h : d.Retains places d') (h' : d'.Retains others d'') :
    d.Retains (places ++ others) d'' :=
  ⟨h'.home.trans h.home, h.root.trans h'.root⟩

/-! ## Following paths -/

theorem root_follow (h : d.follow rooted parts = .ok s) : s.root = d.root :=
  (Spot.enterAll_retains (.refl [] _) rfl h).1

theorem Retains.follow (hd : d.Retains places d') (h : d.follow rooted parts = .ok s) :
    ∃ s', d'.follow rooted parts = .ok s' ∧ s'.location = s.location := by
  have hroot : (DiskNode.directory (Spot.root ⟨d.root, []⟩)).Retains places
      (.directory (Spot.root ⟨d'.root, []⟩)) := hd.root
  rw [Disk.follow] at h ⊢
  rw [hd.home]
  obtain ⟨-, s', hs', -, hloc⟩ := Spot.enterAll_retains hroot rfl h
  exact ⟨s', hs', hloc⟩

theorem exists_of_place? (h : d.place? path = some (s, name)) :
    ∃ p front, DiskPath.ofText? path = some p ∧ p.named = (front, some name) ∧
      p.endsInSlash = false ∧ d.follow p.rooted front = .ok s := by
  obtain ⟨p, hp, h⟩ := Option.bind_eq_some_iff.1 h
  split at h
  · next front name' hnamed =>
    split at h
    · cases h
    next hslash =>
    split at h
    · next s' hfollow =>
      obtain ⟨rfl, rfl⟩ := Prod.mk.inj (Option.some.inj h)
      exact ⟨p, front, hp, hnamed, by simpa using hslash, hfollow⟩
    · cases h
  · cases h

theorem root_place? (h : d.place? path = some (s, name)) : s.root = d.root := by
  obtain ⟨p, front, -, -, -, hfollow⟩ := exists_of_place? h
  exact root_follow hfollow

theorem Retains.place? (hd : d.Retains places d') (h : d.place? path = some (s, name)) :
    ∃ s', d'.place? path = some (s', name) ∧ s'.location = s.location := by
  obtain ⟨p, front, hp, hnamed, hslash, hfollow⟩ := exists_of_place? h
  obtain ⟨s', hs', hloc⟩ := hd.follow hfollow
  refine ⟨s', ?_, hloc⟩
  rw [Disk.place?, hp, Option.bind_eq_bind, Option.bind_some, hnamed]
  simp only [hslash, hs', Bool.false_eq_true, if_false]

/-! ## Putting files and directories -/

theorem put_retains {node : DiskNode} (hs : s.root = d.root)
    (h : ∀ names, Retained (name :: names ∈ places)
      ((s.entries.lookup name).bind (·.at? names)) (node.at? names)) :
    d.Retains (places.map (s.location ++ ·)) (d.put s name node) := by
  refine ⟨rfl, ?_⟩
  rw [← hs]
  exact Spot.retains_root (DiskNode.retains_put h)

theorem put_directory_retains (hs : s.root = d.root) (h : s.entries.lookup name = none) :
    d.Retains [] (d.put s name (.directory [])) := by
  have hnode (names : List String) : Retained (name :: names ∈ [])
      ((s.entries.lookup name).bind (·.at? names)) ((DiskNode.directory []).at? names) := by
    rw [h]
    cases names with
    | nil => exact ⟨nofun, fun _ => rfl⟩
    | cons => exact .refl _ none
  exact put_retains hs hnode

theorem put_file_retains (hs : s.root = d.root)
    (h : (s.entries.lookup name).any DiskNode.isDirectory = false) :
    d.Retains [s.location ++ [name]] (d.put s name (.file bytes)) := by
  have hnode (names : List String) : Retained (name :: names ∈ [[name]])
      ((s.entries.lookup name).bind (·.at? names)) ((DiskNode.file bytes).at? names) := by
    cases names with
    | nil =>
      refine ⟨fun hold => ?_, fun hnot => absurd (List.mem_singleton_self _) hnot⟩
      rw [DiskNode.bind_at?_nil, h] at hold
      cases hold
    | cons other names =>
      -- nothing is below a file, and nothing was below what it stands in place of
      rcases hlookup : s.entries.lookup name with - | (bytes' | entries)
      · exact .refl _ none
      · exact .refl _ none
      · rw [hlookup] at h
        cases h
  exact put_retains hs hnode

/-! ## Making directories -/

theorem makeDir_retains {p : DiskPath} (h : d.makeDir p = .new d') : d.Retains [] d' := by
  revert h
  fun_cases makeDir d p with
  | case5 front s hfollow name hlookup =>
    intro h
    obtain rfl := Made.new.inj h
    exact put_directory_retains (root_follow hfollow) hlookup
  | _ => exact nofun

theorem makeDirsFor_retains (d : Disk) (fuel : Nat) (p : DiskPath) :
    d.Retains [] (d.makeDirsFor fuel p).1 := by
  fun_induction makeDirsFor d fuel p with
  | case1 | case2 | case4 | case5 | case6 => exact .refl [] d
  | case3 p fuel hp d₁ hnew => exact makeDir_retains hnew
  | case7 p fuel hp hmissing parent hparent d₁ hmade ih
  | case9 p fuel hp hmissing parent hparent d₁ hmade isDirectory hpresent ih
  | case10 p fuel hp hmissing parent hparent d₁ hmade fault hfault ih =>
    rw [hmade] at ih
    exact ih
  | case8 p fuel hp hmissing parent hparent d₁ hmade d₂ hnew ih =>
    rw [hmade] at ih
    exact ih.trans (makeDir_retains hnew)

theorem makeDirs_retains (d : Disk) (path : String) : d.Retains [] (d.makeDirs path).1 := by
  rw [makeDirs]
  split
  · exact .refl [] d
  · exact makeDirsFor_retains d _ _

/-! ## The view of a disk -/

/-- A disk shows its files by the names that lead to them. -/
def view : FileStore.View Disk (List String) where
  place? d path := (d.place? path).map fun (s, name) => s.location ++ [name]
  bytes? d names := ((DiskNode.directory d.root).at? names).bind DiskNode.bytes?

theorem place?_view_eq_some_iff {names : List String} :
    view.place? d path = some names ↔
      ∃ s name, d.place? path = some (s, name) ∧ s.location ++ [name] = names := by
  simp [view, Option.map_eq_some_iff]

theorem bytes?_view (hs : s.root = d.root) (name : String) :
    view.bytes? d (s.location ++ [name]) = (s.entries.lookup name).bind DiskNode.bytes? := by
  rw [view]
  dsimp only
  rw [← hs, Spot.lookup_of_location]

theorem Retains.keeps (h : d.Retains places d') : view.Keeps places d d' where
  place hf := by
    obtain ⟨s, name, hs, rfl⟩ := place?_view_eq_some_iff.1 hf
    obtain ⟨s', hs', hloc⟩ := h.place? hs
    exact place?_view_eq_some_iff.2 ⟨s', name, hs', by rw [hloc]⟩
  bytes {names} hf := (h.root names).bytes hf

theorem bytes?_eq_view (d : Disk) (path : String) :
    d.bytes? path = (view.place? d path).bind (view.bytes? d) := by
  cases hplace : d.place? path with
  | none =>
    rw [Disk.bytes?, hplace, view]
    dsimp only
    rw [hplace]
    rfl
  | some place =>
    obtain ⟨s, name⟩ := place
    rw [place?_view_eq_some_iff.2 ⟨s, name, hplace, rfl⟩, Option.bind_some,
      bytes?_view (root_place? hplace), Disk.bytes?, hplace, Option.bind_eq_bind, Option.bind_some]
    dsimp only
    rcases s.entries.lookup name with - | (bytes | entries) <;> rfl

theorem read?_eq_view (d : Disk) (path : String) : d.read? path = view.text? d path := by
  rw [read?, bytes?_eq_view]
  exact Option.bind_assoc ..

theorem writeBytes?_spec (h : d.writeBytes? path bytes = some d') :
    ∃ names, view.place? d' path = some names ∧ view.bytes? d' names = some bytes ∧
      d.Retains [names] d' := by
  obtain ⟨⟨s, name⟩, hplace, h⟩ := Option.bind_eq_some_iff.1 h
  have hput : d' = d.put s name (.file bytes) ∧
      (s.entries.lookup name).any DiskNode.isDirectory = false := by
    dsimp only at h
    split at h
    · cases h
    · next hfile => exact ⟨(Option.some.inj h).symm, by rw [hfile]; rfl⟩
    · next hnone =>
      split at h
      · exact ⟨(Option.some.inj h).symm, by rw [hnone]; rfl⟩
      · cases h
  obtain ⟨rfl, hlookup⟩ := hput
  have hretains : d.Retains [s.location ++ [name]] (d.put s name (.file bytes)) :=
    put_file_retains (root_place? hplace) hlookup
  refine ⟨_, hretains.keeps.place (place?_view_eq_some_iff.2 ⟨s, name, hplace, rfl⟩), ?_, hretains⟩
  have hbytes := bytes?_view (d := d.put s name (.file bytes))
    (s := ⟨Assoc.put name (.file bytes) s.entries, s.above⟩) rfl name
  rw [Assoc.lookup_put_self] at hbytes
  exact hbytes

/-- **The disk is faithful to its view.** -/
theorem view_faithful : view.Faithful diskStore where
  read d path := by
    rw [← read?_eq_view]
    rfl
  makeDirs d path := (makeDirs_retains d path).keeps
  write {d d' path contents} h := by
    have hrun : (diskStore.write path contents).run d =
        ((d.write? path contents).isSome, (d.write? path contents).getD d) := by
      simp only [diskStore, StateT.run_bind, StateT.run_get, pure_bind]
      cases d.write? path contents <;> rfl
    cases hwrite : d.write? path contents with
    | none =>
      rw [hrun, hwrite] at h
      cases (Prod.mk.inj h).1
    | some d₁ =>
      rw [hrun, hwrite] at h
      obtain ⟨-, rfl⟩ := Prod.mk.inj h
      obtain ⟨names, hplace, hbytes, hretains⟩ := writeBytes?_spec hwrite
      exact ⟨names, ⟨hplace, hbytes⟩, hretains.keeps⟩

end Disk

end ScreenRoutes
