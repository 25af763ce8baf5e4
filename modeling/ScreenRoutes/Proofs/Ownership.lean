import Mathlib.Data.List.Induction
import ScreenRoutes.Generation.Basic

/-!
# Owners of output paths

Screens are processed one after the other, and the owners of paths are all that one leaves to the
next. They can be told from the outcomes (`processAfter_append`): whoever got a file owns its path,
and nobody else owns any. So a screen at fault leaves no trace, no path has two owners, and what a
screen comes to is its own file unless an earlier success has the same path
(`process_single_owner`).
-/

namespace ScreenRoutes

/-! ## Outcomes -/

namespace Outcome

/-- Whether a file was generated at the path, however either is spelled. -/
def Owns (x : Outcome) (path : String) : Prop :=
  ∃ file, x.result = .ok file ∧ pathParts file.path = pathParts path

/-- Whether two outcomes own no path together. -/
def Apart (x y : Outcome) : Prop :=
  ∀ path, x.Owns path → ¬ y.Owns path

/-- The path that the outcome claims, and for which function. -/
def claim? (x : Outcome) : Option (List String × String) :=
  match x.result with
  | .ok file => some (pathParts file.path, x.function)
  | .error _ => none

theorem claim?_eq_some_iff {x : Outcome} {parts : List String} {owner : String} :
    x.claim? = some (parts, owner) ↔
      ∃ file, x.result = .ok file ∧ pathParts file.path = parts ∧ x.function = owner := by
  rw [claim?]
  cases x.result with
  | error e => simp
  | ok file => simp

theorem isOk_iff {x : Outcome} : x.isOk ↔ ∃ file, x.result = .ok file := by
  rw [isOk]
  cases x.result with
  | error e => simp
  | ok file => simp

theorem claim?_of_not_isOk {x : Outcome} (h : x.isOk = false) : x.claim? = none := by
  rw [isOk] at h
  rw [claim?]
  cases hresult : x.result with
  | error e => rfl
  | ok file => simp [hresult] at h

end Outcome

/-- The owners after more outcomes, the latest first. -/
def Owners.after (owners : Owners) (outcomes : List Outcome) : Owners :=
  (outcomes.filterMap Outcome.claim?).reverse ++ owners

namespace Owners

theorem after_append (owners : Owners) (xs ys : List Outcome) :
    owners.after (xs ++ ys) = (owners.after xs).after ys := by
  simp [after]

theorem mem_after_nil {outcomes : List Outcome} {parts : List String} {owner : String} :
    (parts, owner) ∈ after [] outcomes ↔
      ∃ x ∈ outcomes, ∃ file, x.result = .ok file ∧ pathParts file.path = parts ∧
        x.function = owner := by
  simp only [after, List.append_nil, List.mem_reverse, List.mem_filterMap,
    Outcome.claim?_eq_some_iff]

/-- A path is free as long as no outcome owns it. -/
theorem lookup_after_nil_eq_none_iff {outcomes : List Outcome} {path : String} :
    (after [] outcomes).lookup (pathParts path) = none ↔ ∀ x ∈ outcomes, ¬ x.Owns path := by
  rw [List.lookup_eq_none_iff]
  constructor
  · rintro hfree x hx ⟨file, hfile, hparts⟩
    have hmem : (pathParts path, x.function) ∈ after [] outcomes :=
      mem_after_nil.2 ⟨x, hx, file, hfile, hparts, rfl⟩
    exact bne_iff_ne.1 (hfree _ hmem) rfl
  · rintro hfree ⟨parts, owner⟩ hmem
    obtain ⟨x, hx, file, hfile, hparts, -⟩ := mem_after_nil.1 hmem
    rw [bne_iff_ne]
    rintro rfl
    exact hfree x hx ⟨file, hfile, hparts⟩

/-- The owner on record is the function of an outcome that owns the path. -/
theorem exists_owns_of_lookup {outcomes : List Outcome} {path owner : String}
    (h : (after [] outcomes).lookup (pathParts path) = some owner) :
    ∃ x ∈ outcomes, x.Owns path ∧ x.function = owner := by
  obtain ⟨later, earlier, hsplit, -⟩ := List.lookup_eq_some_iff.1 h
  have hmem : (pathParts path, owner) ∈ after [] outcomes := by
    rw [hsplit]
    exact List.mem_append_right _ List.mem_cons_self
  obtain ⟨x, hx, file, hfile, hparts, howner⟩ := mem_after_nil.1 hmem
  exact ⟨x, hx, ⟨file, hfile, hparts⟩, howner⟩

end Owners

/-! ## One screen -/

namespace ManifestOptions

variable {o : ManifestOptions}

def file (o : ManifestOptions) (screen : Screen) : GeneratedFile :=
  ⟨(screen.unit o.fileLead).sourcePath, (screen.unit o.fileLead).sourceText o.source,
    screen.pattern, (screen.unit o.fileLead).file⟩

/-- The outcome of a screen after others. -/
def outcome (o : ManifestOptions) (owners : Owners) (s : ManifestScreen) : Outcome :=
  ⟨s.function, s.route, (o.claim owners s).1⟩

theorem claim_of_error {owners : Owners} {s : ManifestScreen} {e : ClassificationError}
    (h : s.declaration.classify .ofPackages = .error e) :
    o.claim owners s = (.error (.classification e), owners) := by
  have hrender : o.render s = .error e := by
    rw [render, h]
    rfl
  rw [claim, hrender]

theorem render_of_ok {s : ManifestScreen} {screen : Screen}
    (h : s.declaration.classify .ofPackages = .ok screen) : o.render s = .ok (o.file screen) := by
  rw [render, h]
  rfl

theorem claim_of_owned {owners : Owners} {s : ManifestScreen} {screen : Screen} {owner : String}
    (h : s.declaration.classify .ofPackages = .ok screen)
    (howner : owners.lookup (pathParts (o.file screen).path) = some owner) :
    o.claim owners s =
      (.error (.duplicateOutput s.function (o.file screen).path owner), owners) := by
  simp only [claim, render_of_ok h, howner]

theorem claim_of_free {owners : Owners} {s : ManifestScreen} {screen : Screen}
    (h : s.declaration.classify .ofPackages = .ok screen)
    (hfree : owners.lookup (pathParts (o.file screen).path) = none) :
    o.claim owners s =
      (.ok (o.file screen), (pathParts (o.file screen).path, s.function) :: owners) := by
  simp only [claim, render_of_ok h, hfree]

/-- A screen leaves the owners as its outcome says. -/
theorem claim_snd (owners : Owners) (s : ManifestScreen) :
    (o.claim owners s).2 = owners.after [o.outcome owners s] := by
  rw [outcome]
  cases hscreen : s.declaration.classify .ofPackages with
  | error e =>
    rw [claim_of_error hscreen]
    rfl
  | ok screen =>
    cases hlookup : owners.lookup (pathParts (o.file screen).path) with
    | some owner =>
      rw [claim_of_owned hscreen hlookup]
      rfl
    | none =>
      rw [claim_of_free hscreen hlookup]
      rfl

/-- A screen gets its own file where the path is free. -/
theorem outcome_eq_ok_iff {owners : Owners} {s : ManifestScreen} {file : GeneratedFile} :
    (o.outcome owners s).result = .ok file ↔
      ∃ screen, s.declaration.classify .ofPackages = .ok screen ∧ o.file screen = file ∧
        owners.lookup (pathParts file.path) = none := by
  rw [outcome]
  cases hscreen : s.declaration.classify .ofPackages with
  | error e => simp [claim_of_error hscreen]
  | ok screen =>
    simp only [Except.ok.injEq, exists_eq_left']
    cases hlookup : owners.lookup (pathParts (o.file screen).path) with
    | some owner =>
      simp only [claim_of_owned hscreen hlookup, reduceCtorEq, false_iff, not_and]
      rintro rfl
      simp [hlookup]
    | none =>
      simp only [claim_of_free hscreen hlookup, Except.ok.injEq]
      exact (and_iff_left_of_imp fun heq => heq ▸ hlookup).symm

theorem outcome_eq_classification_iff {owners : Owners} {s : ManifestScreen}
    {e : ClassificationError} :
    (o.outcome owners s).result = .error (.classification e) ↔
      s.declaration.classify .ofPackages = .error e := by
  rw [outcome]
  cases hscreen : s.declaration.classify .ofPackages with
  | error e => simp [claim_of_error hscreen]
  | ok screen =>
    cases hlookup : owners.lookup (pathParts (o.file screen).path) with
    | some owner => simp [claim_of_owned hscreen hlookup]
    | none => simp [claim_of_free hscreen hlookup]

/-- A screen whose path has an owner is told of it. -/
theorem outcome_eq_duplicate_iff {owners : Owners} {s : ManifestScreen}
    {function path owner : String} :
    (o.outcome owners s).result = .error (.duplicateOutput function path owner) ↔
      function = s.function ∧
        (∃ screen, s.declaration.classify .ofPackages = .ok screen ∧ (o.file screen).path = path) ∧
        owners.lookup (pathParts path) = some owner := by
  rw [outcome]
  cases hscreen : s.declaration.classify .ofPackages with
  | error e => simp [claim_of_error hscreen]
  | ok screen =>
    simp only [Except.ok.injEq, exists_eq_left']
    cases hlookup : owners.lookup (pathParts (o.file screen).path) with
    | none =>
      simp only [claim_of_free hscreen hlookup, reduceCtorEq, false_iff, not_and]
      rintro - rfl
      simp [hlookup]
    | some other =>
      simp only [claim_of_owned hscreen hlookup, Except.error.injEq,
        GenerationFault.duplicateOutput.injEq]
      constructor
      · rintro ⟨rfl, rfl, rfl⟩
        exact ⟨rfl, rfl, hlookup⟩
      · rintro ⟨rfl, rfl, howner⟩
        exact ⟨rfl, rfl, Option.some.inj (hlookup.symm.trans howner)⟩

/-! ## All screens -/

theorem processAfter_cons (owners : Owners) (s : ManifestScreen) (ss : List ManifestScreen) :
    o.processAfter owners (s :: ss) =
      o.outcome owners s :: o.processAfter (owners.after [o.outcome owners s]) ss := by
  rw [← claim_snd]
  rfl

/-- What screens leave to those behind them can be told from their outcomes. -/
theorem processAfter_append (owners : Owners) (xs ys : List ManifestScreen) :
    o.processAfter owners (xs ++ ys) =
      o.processAfter owners xs ++
        o.processAfter (owners.after (o.processAfter owners xs)) ys := by
  induction xs generalizing owners with
  | nil => rfl
  | cons x xs ih =>
    rw [List.cons_append, processAfter_cons, processAfter_cons, ih, ← Owners.after_append]
    rfl

theorem length_processAfter (owners : Owners) (screens : List ManifestScreen) :
    (o.processAfter owners screens).length = screens.length := by
  induction screens generalizing owners with
  | nil => rfl
  | cons s ss ih => rw [processAfter_cons, List.length_cons, List.length_cons, ih]

/-- The outcome of a screen among others. -/
theorem process_append_cons (before : List ManifestScreen) (s : ManifestScreen)
    (after : List ManifestScreen) :
    o.process (before ++ s :: after) =
      o.process before ++ o.outcome (Owners.after [] (o.process before)) s ::
        o.processAfter (Owners.after [] (o.process before ++
          [o.outcome (Owners.after [] (o.process before)) s])) after := by
  rw [process, processAfter_append, processAfter_cons, Owners.after_append]
  rfl

/-- A screen at fault leaves no trace. -/
theorem processAfter_of_not_isOk {before : List ManifestScreen} {s : ManifestScreen}
    (h : (o.outcome (Owners.after [] (o.process before)) s).isOk = false)
    (after : List ManifestScreen) :
    o.processAfter (Owners.after [] (o.process before ++
        [o.outcome (Owners.after [] (o.process before)) s])) after =
      o.processAfter (Owners.after [] (o.process before)) after := by
  rw [Owners.after_append, Owners.after, List.filterMap_cons_none (Outcome.claim?_of_not_isOk h)]
  rfl

/-- The last screen's outcome sets it apart from all outcomes before it. -/
theorem apart_outcome {outcomes : List Outcome} {s : ManifestScreen} {x : Outcome}
    (hx : x ∈ outcomes) : x.Apart (o.outcome (Owners.after [] outcomes) s) := by
  rintro path ⟨file, hfile, hparts⟩ ⟨other, hother, hsame⟩
  obtain ⟨-, -, -, hfree⟩ := outcome_eq_ok_iff.1 hother
  exact Owners.lookup_after_nil_eq_none_iff.1 hfree x hx ⟨file, hfile, hparts.trans hsame.symm⟩

/-- **No path has two owners.** -/
theorem pairwise_apart_process (screens : List ManifestScreen) :
    (o.process screens).Pairwise Outcome.Apart := by
  -- from the front: what comes after an outcome was checked against it
  induction screens using List.reverseRecOn with
  | nil => exact .nil
  | append_singleton before s ih =>
    rw [process_append_cons, List.pairwise_append]
    refine ⟨ih, List.pairwise_singleton _ _, fun x hx y hy => ?_⟩
    obtain rfl := List.mem_singleton.1 hy
    exact apart_outcome hx

/-- An owner of a path is the only one. -/
theorem eq_of_owns {screens : List ManifestScreen} {path : String} {i j : Nat} {x y : Outcome}
    (hi : (o.process screens)[i]? = some x) (hj : (o.process screens)[j]? = some y)
    (hx : x.Owns path) (hy : y.Owns path) : i = j := by
  have hapart := List.pairwise_iff_getElem.1 (pairwise_apart_process (o := o) screens)
  obtain ⟨hilt, rfl⟩ := List.getElem?_eq_some_iff.1 hi
  obtain ⟨hjlt, rfl⟩ := List.getElem?_eq_some_iff.1 hj
  rcases Nat.lt_trichotomy i j with hlt | heq | hgt
  · exact absurd hy (hapart i j hilt hjlt hlt path hx)
  · exact heq
  · exact absurd hx (hapart j i hjlt hilt hgt path hy)

/-- What processing says about the screen at place `i`. -/
structure Settles (o : ManifestOptions) (screens : List ManifestScreen) (i : Nat)
    (s : ManifestScreen) (x : Outcome) : Prop where
  function_eq : x.function = s.function
  route_eq : x.route = s.route
  /-- It succeeds where it is classified and no success before it has its path. -/
  isOk_iff : x.isOk ↔ ∃ screen, s.declaration.classify .ofPackages = .ok screen ∧
    ∀ y ∈ (o.process screens).take i, ¬ y.Owns (screen.unit o.fileLead).sourcePath
  classification_iff : ∀ e, x.result = .error (.classification e) ↔
    s.declaration.classify .ofPackages = .error e
  /-- A duplicate names the one owner of the path, which comes before it. -/
  owner_of_duplicate : ∀ function path owner,
    x.result = .error (.duplicateOutput function path owner) →
      function = s.function ∧
        (∃ screen, s.declaration.classify .ofPackages = .ok screen ∧
          (screen.unit o.fileLead).sourcePath = path) ∧
        ∃ j y, j < i ∧ (o.process screens)[j]? = some y ∧ y.Owns path ∧ y.function = owner ∧
          ∀ k z, (o.process screens)[k]? = some z → z.Owns path → k = j
  /-- A success has the file that its screen gets on its own. -/
  alone : ∀ file, x.result = .ok file → o.process [s] = [⟨s.function, s.route, .ok file⟩]
  /-- Without a screen at fault the others come to the same. -/
  eraseIdx_eq : x.isOk = false →
    o.process (screens.eraseIdx i) = (o.process screens).eraseIdx i

theorem length_process (screens : List ManifestScreen) :
    (o.process screens).length = screens.length :=
  length_processAfter [] screens

/-- The outcomes before a screen's own are those of the screens before it. -/
theorem take_process (before : List ManifestScreen) (s : ManifestScreen)
    (after : List ManifestScreen) :
    (o.process (before ++ s :: after)).take before.length = o.process before := by
  rw [process_append_cons, ← length_process (o := o) before, List.take_left]

theorem getElem?_process (before : List ManifestScreen) (s : ManifestScreen)
    (after : List ManifestScreen) :
    (o.process (before ++ s :: after))[before.length]? =
      some (o.outcome (Owners.after [] (o.process before)) s) := by
  rw [process_append_cons, ← length_process (o := o) before,
    List.getElem?_append_right (Nat.le_refl _), Nat.sub_self, List.getElem?_cons_zero]

/-- The owner on record is the only owner of the path. -/
theorem exists_sole_owner {screens : List ManifestScreen} {i : Nat} {path owner : String}
    (h : (Owners.after [] ((o.process screens).take i)).lookup (pathParts path) = some owner) :
    ∃ j y, j < i ∧ (o.process screens)[j]? = some y ∧ y.Owns path ∧ y.function = owner ∧
      ∀ k z, (o.process screens)[k]? = some z → z.Owns path → k = j := by
  obtain ⟨y, hy, howns, howner⟩ := Owners.exists_owns_of_lookup h
  obtain ⟨j, hj⟩ := List.mem_iff_getElem?.1 hy
  rw [List.getElem?_take] at hj
  split at hj
  · next hlt => exact ⟨j, y, hlt, hj, howns, howner, fun k z hk hz => eq_of_owns hk hj hz howns⟩
  · cases hj

/-- The outcome of a screen after those before it is all that processing says about it. -/
theorem settles_outcome (before : List ManifestScreen) (s : ManifestScreen)
    (after : List ManifestScreen) :
    o.Settles (before ++ s :: after) before.length s
      (o.outcome (Owners.after [] (o.process before)) s) where
  function_eq := rfl
  route_eq := rfl
  isOk_iff := by
    rw [take_process, Outcome.isOk_iff]
    constructor
    · rintro ⟨file, hfile⟩
      obtain ⟨screen, hscreen, rfl, hfree⟩ := outcome_eq_ok_iff.1 hfile
      exact ⟨screen, hscreen, Owners.lookup_after_nil_eq_none_iff.1 hfree⟩
    · rintro ⟨screen, hscreen, hfree⟩
      exact ⟨o.file screen, outcome_eq_ok_iff.2
        ⟨screen, hscreen, rfl, Owners.lookup_after_nil_eq_none_iff.2 hfree⟩⟩
  classification_iff _ := outcome_eq_classification_iff
  owner_of_duplicate function path owner h := by
    obtain ⟨hfunction, hscreen, howner⟩ := outcome_eq_duplicate_iff.1 h
    refine ⟨hfunction, hscreen, exists_sole_owner ?_⟩
    rw [take_process]
    exact howner
  alone file h := by
    obtain ⟨screen, hscreen, rfl, -⟩ := outcome_eq_ok_iff.1 h
    have halone : (o.outcome [] s).result = .ok (o.file screen) :=
      outcome_eq_ok_iff.2 ⟨screen, hscreen, rfl, rfl⟩
    rw [← halone]
    rfl
  eraseIdx_eq h := by
    have hothers : (before ++ s :: after).eraseIdx before.length = before ++ after := by
      rw [List.eraseIdx_append_of_length_le (Nat.le_refl _), Nat.sub_self, List.eraseIdx_cons_zero]
    rw [hothers, process, processAfter_append, process_append_cons, processAfter_of_not_isOk h,
      ← length_process (o := o) before, List.eraseIdx_append_of_length_le (Nat.le_refl _),
      Nat.sub_self, List.eraseIdx_cons_zero]
    rfl

/-- **Each path has one owner, and each screen depends on no other but the owner of its path.** A
screen of a list succeeds where it is classified and its path is free of the successes before it,
with the file that it gets on its own; a duplicate names the one owner; and a screen at fault can be
left out. -/
theorem process_single_owner (o : ManifestOptions) (screens : List ManifestScreen) :
    (o.process screens).length = screens.length ∧
      ∀ i s, screens[i]? = some s →
        ∃ x, (o.process screens)[i]? = some x ∧ o.Settles screens i s x := by
  refine ⟨length_process screens, fun i s hs => ?_⟩
  obtain ⟨hlt, hs⟩ := List.getElem?_eq_some_iff.1 hs
  have hsplit : screens = screens.take i ++ s :: screens.drop (i + 1) := by
    rw [← hs, List.getElem_cons_drop, List.take_append_drop]
  have hlength : (screens.take i).length = i := List.length_take_of_le (Nat.le_of_lt hlt)
  have hget := getElem?_process (o := o) (screens.take i) s (screens.drop (i + 1))
  have hsettles := settles_outcome (o := o) (screens.take i) s (screens.drop (i + 1))
  rw [← hsplit, hlength] at hget hsettles
  exact ⟨_, hget, hsettles⟩

/-- A screen whose path is spelled in another way than that of an earlier one, behind a screen that
is not classified. -/
theorem process_single_owner_respelled :
    let screens : List ManifestScreen :=
      [⟨"app/x", "First", "detail", none, [⟨"id", "Int", none, none, none⟩]⟩,
        ⟨"app//x", "Broken", "detail", none, [⟨"id", "Int?", none, none, none⟩]⟩,
        ⟨"app//x", "Second", "detail", none, []⟩]
    let outcomes := standard.process screens
    screens[2]? = some ⟨"app//x", "Second", "detail", none, []⟩ ∧
    outcomes.map (·.isOk) = [true, false, false] ∧
    outcomes[2]?.map (·.result) =
      some (.error (.duplicateOutput "Second" "app//x/NavGenDetail.kt" "First")) ∧
    (∃ j y, j < 2 ∧ outcomes[j]? = some y ∧ y.Owns "app//x/NavGenDetail.kt" ∧
      y.function = "First") ∧
    standard.process (screens.eraseIdx 2) = outcomes.eraseIdx 2 := by
  intro screens outcomes
  have hresult : outcomes[2]?.map (·.result) =
      some (.error (.duplicateOutput "Second" "app//x/NavGenDetail.kt" "First")) := by
    decide +kernel
  obtain ⟨x, hx, hsettles⟩ := (process_single_owner standard screens).2 2 _ rfl
  have hduplicate : x.result =
      .error (.duplicateOutput "Second" "app//x/NavGenDetail.kt" "First") := by
    rw [hx] at hresult
    exact Option.some.inj hresult
  obtain ⟨-, -, j, y, hj, hy, howns, howner, -⟩ := hsettles.owner_of_duplicate _ _ _ hduplicate
  refine ⟨rfl, by decide +kernel, hresult, ⟨j, y, hj, hy, howns, howner⟩, ?_⟩
  exact hsettles.eraseIdx_eq (by rw [Outcome.isOk, hduplicate])

end ManifestOptions

end ScreenRoutes
