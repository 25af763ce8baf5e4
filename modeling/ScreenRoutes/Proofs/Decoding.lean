import Mathlib.Data.List.Forall2
import ScreenRoutes.Graph
import ScreenRoutes.Proofs.Assoc
import ScreenRoutes.Proofs.Value

/-!
# Decoding captures into a bundle

Reading the declared arguments of a route adds up to one bundle (`readArguments_eq_ok_iff`): each
declared argument has the value that its own capture gives it, in the order of declaration, and the
captures that nothing declares follow as strings. Reading fails exactly where one of the declared
arguments has no value of its own. Nothing is overwritten, so a bundle has under a declared name
what `Argument.valueOf` says (`get?_bundleOf`).
-/

namespace ScreenRoutes

open Text

/-! ## Bundles -/

theorem Bundle.insert_of_not_mem {b : Bundle} {name : String} (h : name ∉ b.entries.map (·.1))
    (v : Value) : b.insert name v = ⟨b.entries ++ [(name, v)]⟩ := by
  rw [Bundle.insert, Assoc.put_of_not_mem h]

/-! ## Decoding texts -/

theorem decodeCaptures_eq_ok_iff {route : String} {captures decoded : Captures} :
    decodeCaptures route captures = .ok decoded ↔
      List.Forall₂ (fun c d => c.1 = d.1 ∧ decode? c.2 = some d.2) captures decoded := by
  induction captures generalizing decoded with
  | nil => simp [decodeCaptures, eq_comm]
  | cons c captures ih =>
    obtain ⟨name, raw⟩ := c
    rw [decodeCaptures, List.forall₂_cons_left_iff]
    cases hraw : decode? raw with
    | none => simp
    | some text =>
      simp only [Except.map]
      constructor
      · intro h
        cases hrest : decodeCaptures route captures with
        | error e => simp [hrest] at h
        | ok rest =>
          simp only [hrest, Except.ok.injEq] at h
          exact ⟨(name, text), rest, ⟨rfl, rfl⟩, ih.1 hrest, h.symm⟩
      · rintro ⟨⟨name', text'⟩, rest, ⟨rfl, htext⟩, hrest, rfl⟩
        obtain rfl := Option.some.inj htext
        rw [ih.2 hrest]

theorem names_decodeCaptures {route : String} {captures decoded : Captures}
    (h : decodeCaptures route captures = .ok decoded) : decoded.map (·.1) = captures.map (·.1) := by
  rw [decodeCaptures_eq_ok_iff] at h
  induction h with
  | nil => rfl
  | cons hc _ ih => rw [List.map_cons, List.map_cons, ih, hc.1]

theorem lookup_decodeCaptures {route : String} {captures decoded : Captures}
    (h : decodeCaptures route captures = .ok decoded) {name raw : String}
    (hraw : captures.lookup name = some raw) :
    ∃ text, decode? raw = some text ∧ decoded.lookup name = some text := by
  rw [decodeCaptures_eq_ok_iff] at h
  induction h with
  | nil => cases hraw
  | @cons c d captures decoded hc _ ih =>
    rw [List.lookup_cons] at hraw
    rw [List.lookup_cons, ← hc.1]
    split at hraw
    · next hname =>
      obtain rfl := Option.some.inj hraw
      exact ⟨d.2, hc.2, rfl⟩
    · next hname => exact ih hraw

theorem decodeCaptures_map {α : Type} {l : List α} {key raw text : α → String}
    (h : ∀ x ∈ l, decode? (raw x) = some (text x)) (route : String) :
    decodeCaptures route (l.map fun x => (key x, raw x)) =
      .ok (l.map fun x => (key x, text x)) := by
  rw [decodeCaptures_eq_ok_iff, List.forall₂_map_left_iff, List.forall₂_map_right_iff,
    List.forall₂_same]
  exact fun x hx => ⟨rfl, h x hx⟩

/-! ## Reading arguments -/

/-- The bundle of the values that the declared arguments have, followed by the captures that none of
them declares. -/
def bundleOf (arguments : List Argument) (value : Argument → Option Value) (captures : Captures) :
    Bundle :=
  ⟨arguments.filterMap (fun a => (value a).map (a.name, ·)) ++
    (captures.filter fun c => c.1 ∉ arguments.map (·.name)).map fun c => (c.1, .string c.2)⟩

theorem bundleOf_cons (a : Argument) (arguments : List Argument) (value : Argument → Option Value)
    (captures : Captures) :
    (bundleOf (a :: arguments) value captures).entries =
      ((value a).map (a.name, ·)).toList ++
        (bundleOf arguments value (Assoc.erase a.name captures)).entries := by
  have hfilter : (captures.filter fun c => c.1 ∉ (a :: arguments).map (·.name)) =
      (Assoc.erase a.name captures).filter fun c => c.1 ∉ arguments.map (·.name) := by
    rw [Assoc.erase, List.filter_filter]
    refine List.filter_congr fun c _ => ?_
    rw [Bool.eq_iff_iff]
    simp [and_comm]
  rw [bundleOf, hfilter, List.filterMap_cons]
  cases value a <;> rfl

theorem bundleOf_congr {arguments : List Argument} {value value' : Argument → Option Value}
    (h : ∀ a ∈ arguments, value a = value' a) (captures : Captures) :
    bundleOf arguments value captures = bundleOf arguments value' captures := by
  have hvalues : (arguments.filterMap fun a => (value a).map (a.name, ·)) =
      arguments.filterMap fun a => (value' a).map (a.name, ·) :=
    List.filterMap_congr fun a ha => by rw [h a ha]
  rw [bundleOf, hvalues, bundleOf]

/-- Captures that are all declared leave nothing over. -/
theorem bundleOf_of_declared {arguments : List Argument} {captures : Captures}
    (h : ∀ name ∈ captures.map (·.1), name ∈ arguments.map (·.name))
    (value : Argument → Option Value) :
    bundleOf arguments value captures = bundleOf arguments value [] := by
  have hfilter : (captures.filter fun c => c.1 ∉ arguments.map (·.name)) = [] := by
    rw [List.filter_eq_nil_iff]
    intro c hc
    rw [decide_eq_true_eq, not_not]
    exact h c.1 (List.mem_map_of_mem hc)
  rw [bundleOf, hfilter]
  rfl

/-- What no argument declares is added as it stands. -/
theorem foldl_insert_captures {captures : Captures} {b : Bundle}
    (hnodup : (captures.map (·.1)).Nodup)
    (hfresh : ∀ name ∈ captures.map (·.1), name ∉ b.entries.map (·.1)) :
    captures.foldl (fun b c => b.insert c.1 (.string c.2)) b =
      ⟨b.entries ++ captures.map fun c => (c.1, .string c.2)⟩ := by
  induction captures generalizing b with
  | nil => simp
  | cons c captures ih =>
    rw [List.map_cons, List.nodup_cons] at hnodup
    rw [List.map_cons, List.forall_mem_cons] at hfresh
    rw [List.foldl_cons, Bundle.insert_of_not_mem hfresh.1, ih hnodup.2]
    · simp
    · intro name hname hmem
      rw [List.map_append, List.mem_append, List.map_cons, List.map_nil, List.mem_singleton] at hmem
      rcases hmem with hmem | rfl
      · exact hfresh.2 name hname hmem
      · exact hnodup.1 hname

/-- Values of the declared arguments make up the bundle that is read. The names that are already in
the bundle belong neither to an argument nor to a capture that is left. -/
theorem readArguments_of_values {route : String} {arguments : List Argument} {captures : Captures}
    {b : Bundle} {value : Argument → Option Value} (hnames : (arguments.map (·.name)).Nodup)
    (hcaptures : (captures.map (·.1)).Nodup)
    (hfresh : ∀ name ∈ b.entries.map (·.1),
      name ∉ arguments.map (·.name) ∧ name ∉ captures.map (·.1))
    (hvalue : ∀ a ∈ arguments, a.valueOf route (captures.lookup a.name) = .ok (value a)) :
    readArguments route arguments captures b =
      .ok ⟨b.entries ++ (bundleOf arguments value captures).entries⟩ := by
  induction arguments generalizing captures b with
  | nil =>
    have hnew : ∀ name ∈ captures.map (·.1), name ∉ b.entries.map (·.1) :=
      fun name hname hmem => (hfresh name hmem).2 hname
    rw [readArguments, foldl_insert_captures hcaptures hnew]
    simp [bundleOf]
  | cons a arguments ih =>
    rw [List.map_cons, List.nodup_cons] at hnames
    rw [List.forall_mem_cons] at hvalue
    have hsub : ((Assoc.erase a.name captures).map (·.1)).Sublist (captures.map (·.1)) :=
      List.filter_sublist.map _
    have hrest : ∀ a' ∈ arguments,
        a'.valueOf route ((Assoc.erase a.name captures).lookup a'.name) = .ok (value a') := by
      intro a' ha'
      have hne : a'.name ≠ a.name := fun heq => hnames.1 (heq ▸ List.mem_map_of_mem ha')
      rw [Assoc.lookup_erase hne]
      exact hvalue.2 a' ha'
    rw [readArguments, hvalue.1, bundleOf_cons]
    cases hv : value a with
    | none =>
      refine ih hnames.2 (hcaptures.sublist hsub) (fun name hname => ?_) hrest
      obtain ⟨hargs, hcaps⟩ := hfresh name hname
      rw [List.map_cons, List.mem_cons, not_or] at hargs
      exact ⟨hargs.2, fun hmem => hcaps (hsub.subset hmem)⟩
    | some v =>
      have hnew : a.name ∉ b.entries.map (·.1) :=
        fun hmem => (hfresh _ hmem).1 List.mem_cons_self
      have herased : a.name ∉ (Assoc.erase a.name captures).map (·.1) := by
        simp [Assoc.erase]
      simp only [Bundle.insert_of_not_mem hnew]
      refine (ih hnames.2 (hcaptures.sublist hsub) (fun name hname => ?_) hrest).trans (by simp)
      rw [List.map_append, List.mem_append, List.map_cons, List.map_nil,
        List.mem_singleton] at hname
      rcases hname with hname | rfl
      · obtain ⟨hargs, hcaps⟩ := hfresh name hname
        rw [List.map_cons, List.mem_cons, not_or] at hargs
        exact ⟨hargs.2, fun hmem => hcaps (hsub.subset hmem)⟩
      · exact ⟨hnames.1, herased⟩

/-- Where reading succeeds every declared argument has a value of its own or stays absent. -/
theorem exists_value_of_readArguments {route : String} {arguments : List Argument}
    {captures : Captures} {b b' : Bundle} (hnames : (arguments.map (·.name)).Nodup)
    (h : readArguments route arguments captures b = .ok b') :
    ∀ a ∈ arguments, ∃ v, a.valueOf route (captures.lookup a.name) = .ok v := by
  induction arguments generalizing captures b with
  | nil => simp
  | cons a arguments ih =>
    rw [List.map_cons, List.nodup_cons] at hnames
    rw [readArguments] at h
    have hrest {b : Bundle}
        (h : readArguments route arguments (Assoc.erase a.name captures) b = .ok b') :
        ∀ a' ∈ arguments, ∃ v, a'.valueOf route (captures.lookup a'.name) = .ok v := by
      intro a' ha'
      have hne : a'.name ≠ a.name := fun heq => hnames.1 (heq ▸ List.mem_map_of_mem ha')
      rw [← Assoc.lookup_erase hne captures]
      exact ih hnames.2 h a' ha'
    rw [List.forall_mem_cons]
    split at h
    · cases h
    · next hv => exact ⟨⟨_, hv⟩, hrest h⟩
    · next v hv => exact ⟨⟨_, hv⟩, hrest h⟩

/-- **Reading succeeds exactly where every declared argument has a value or stays absent, and then
gives these values and the captures that nothing declares.** -/
theorem readArguments_eq_ok_iff {route : String} {arguments : List Argument} {captures : Captures}
    {b : Bundle} (hnames : (arguments.map (·.name)).Nodup)
    (hcaptures : (captures.map (·.1)).Nodup) :
    readArguments route arguments captures .empty = .ok b ↔
      ∃ value : Argument → Option Value,
        (∀ a ∈ arguments, a.valueOf route (captures.lookup a.name) = .ok (value a)) ∧
          b = bundleOf arguments value captures := by
  have hread {value : Argument → Option Value}
      (hvalue : ∀ a ∈ arguments, a.valueOf route (captures.lookup a.name) = .ok (value a)) :
      readArguments route arguments captures .empty = .ok (bundleOf arguments value captures) := by
    rw [readArguments_of_values hnames hcaptures (by simp [Bundle.empty]) hvalue]
    rfl
  constructor
  · intro h
    have hall := exists_value_of_readArguments hnames h
    let value (a : Argument) : Option Value :=
      match a.valueOf route (captures.lookup a.name) with
      | .ok v => v
      | .error _ => none
    have hvalue : ∀ a ∈ arguments, a.valueOf route (captures.lookup a.name) = .ok (value a) := by
      intro a ha
      obtain ⟨v, hv⟩ := hall a ha
      simp only [value, hv]
    exact ⟨value, hvalue, Except.ok.inj (h.symm.trans (hread hvalue))⟩
  · rintro ⟨value, hvalue, rfl⟩
    exact hread hvalue

/-! ## Arguments in a bundle -/

theorem get?_bundleOf {arguments : List Argument} (hnames : (arguments.map (·.name)).Nodup)
    (value : Argument → Option Value) (captures : Captures) {a : Argument} (ha : a ∈ arguments) :
    (bundleOf arguments value captures).get? a.name = value a := by
  have hrest : ((captures.filter fun c => c.1 ∉ arguments.map (·.name)).map
      fun c => (c.1, Value.string c.2)).lookup a.name = none := by
    rw [lookup_eq_none_iff_not_mem, List.map_map]
    intro hmem
    obtain ⟨c, hc, hname⟩ := List.mem_map.1 hmem
    have hdeclared : c.1 ∈ arguments.map (·.name) := List.mem_map.2 ⟨a, ha, hname.symm⟩
    exact of_decide_eq_true (List.mem_filter.1 hc).2 hdeclared
  rw [Bundle.get?, bundleOf, List.lookup_append, hrest, Option.or_none,
    lookup_filterMap hnames value ha]

/-- Under a name that nothing declares a bundle has the capture of that name. -/
theorem get?_bundleOf_of_not_mem {arguments : List Argument} {name : String}
    (h : name ∉ arguments.map (·.name)) (value : Argument → Option Value) (captures : Captures) :
    (bundleOf arguments value captures).get? name = (captures.lookup name).map .string := by
  rw [Bundle.get?, bundleOf, List.lookup_append, lookup_filterMap_of_not_mem h, Option.none_or]
  induction captures with
  | nil => rfl
  | cons c captures ih =>
    rw [List.filter_cons, List.lookup_cons]
    split
    · rw [List.map_cons, List.lookup_cons, ih]
      cases name == c.1 <;> rfl
    · next hc =>
      have hne : (name == c.1) = false := by
        rw [beq_eq_false_iff_ne]
        rintro rfl
        exact hc (decide_eq_true h)
      rw [ih, hne]

end ScreenRoutes
