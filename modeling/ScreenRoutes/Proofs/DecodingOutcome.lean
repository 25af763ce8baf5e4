import ScreenRoutes.Proofs.Arguments

/-!
# What decoding comes to

Every declared argument is settled by its own capture, whatever the others are: it is read from the
text that the capture decodes to, or it is left to its default or to being nullable. Decoding
succeeds exactly where all captures decode and all arguments are settled, and the bundle then has
what each of them gives and the captures that nothing declares. Otherwise the first argument that
is not settled is blamed (`decoding_outcome`).
-/

namespace ScreenRoutes

open Text

/-! ## The first failure -/

/-- Whether `e` is how the first element that fails does so. -/
def FirstFailure {α ε : Type} (fails : α → ε → Prop) (l : List α) (e : ε) : Prop :=
  ∃ before x after, l = before ++ x :: after ∧ (∀ y ∈ before, ∀ e', ¬ fails y e') ∧ fails x e

section FirstFailure

variable {α ε : Type} {fails : α → ε → Prop} {l : List α} {e : ε}

theorem not_firstFailure_nil : ¬ FirstFailure fails [] e := by
  rintro ⟨before, x, after, hl, -⟩
  simp at hl

theorem firstFailure_cons {x : α} :
    FirstFailure fails (x :: l) e ↔
      fails x e ∨ (∀ e', ¬ fails x e') ∧ FirstFailure fails l e := by
  constructor
  · rintro ⟨before, y, after, hl, hbefore, hy⟩
    cases before with
    | nil =>
      obtain ⟨rfl, -⟩ := List.cons.inj hl
      exact .inl hy
    | cons z before =>
      obtain ⟨rfl, rfl⟩ := List.cons.inj hl
      rw [List.forall_mem_cons] at hbefore
      exact .inr ⟨hbefore.1, before, y, after, rfl, hbefore.2, hy⟩
  · rintro (hx | ⟨hx, before, y, after, rfl, hbefore, hy⟩)
    · exact ⟨[], x, l, rfl, List.forall_mem_nil _, hx⟩
    · exact ⟨x :: before, y, after, rfl, List.forall_mem_cons.2 ⟨hx, hbefore⟩, hy⟩

theorem FirstFailure.congr {fails' : α → ε → Prop} (h : ∀ x ∈ l, ∀ e, fails x e ↔ fails' x e) :
    FirstFailure fails l e ↔ FirstFailure fails' l e := by
  induction l with
  | nil => simp only [not_firstFailure_nil]
  | cons x l ih =>
    rw [List.forall_mem_cons] at h
    simp only [firstFailure_cons, h.1, ih h.2]

end FirstFailure

/-! ## Decoded captures -/

/-- Whether a capture is not UTF-8, and the error that says so. -/
def CaptureFails (route : String) (c : String × String) (e : NavigationError) : Prop :=
  decode? c.2 = none ∧ e = .invalidArgument route c.1 .string c.2

theorem decodeCaptures_eq_error_iff {route : String} {captures : Captures} {e : NavigationError} :
    decodeCaptures route captures = .error e ↔ FirstFailure (CaptureFails route) captures e := by
  induction captures with
  | nil => simp [decodeCaptures, not_firstFailure_nil]
  | cons c captures ih =>
    rw [decodeCaptures, firstFailure_cons, ← ih]
    cases hraw : decode? c.2 with
    | none => simp [CaptureFails, hraw, eq_comm]
    | some text =>
      have hfine : ∀ e, ¬ CaptureFails route c e := by simp [CaptureFails, hraw]
      cases hrest : decodeCaptures route captures with
      | error e' => simp [hfine, Except.map]
      | ok rest => simp [hfine, Except.map]

theorem decodeCaptures_of_forall {captures : Captures}
    (h : ∀ c ∈ captures, ∃ t, decode? c.2 = some t) (route : String) :
    decodeCaptures route captures = .ok (captures.map fun c => (c.1, (decode? c.2).getD "")) := by
  have htext : ∀ c ∈ captures, decode? c.2 = some ((decode? c.2).getD "") := by
    intro c hc
    obtain ⟨t, ht⟩ := h c hc
    rw [ht, Option.getD_some]
  have hkept : captures = captures.map fun c => (c.1, c.2) := by simp
  nth_rewrite 1 [hkept]
  exact decodeCaptures_map htext route

theorem exists_decodeCaptures_iff (route : String) {captures : Captures} :
    (∃ decoded, decodeCaptures route captures = .ok decoded) ↔
      ∀ c ∈ captures, ∃ t, decode? c.2 = some t := by
  constructor
  · rintro ⟨decoded, h⟩
    rw [decodeCaptures_eq_ok_iff] at h
    induction h with
    | nil => exact List.forall_mem_nil _
    | cons hc _ ih => exact List.forall_mem_cons.2 ⟨⟨_, hc.2⟩, ih⟩
  · intro h
    exact ⟨_, decodeCaptures_of_forall h route⟩

theorem mem_decodeCaptures {route : String} {captures decoded : Captures}
    (h : decodeCaptures route captures = .ok decoded) {name t : String} :
    (name, t) ∈ decoded ↔ ∃ raw, (name, raw) ∈ captures ∧ decode? raw = some t := by
  rw [decodeCaptures_eq_ok_iff] at h
  induction h with
  | nil => simp
  | @cons c d captures decoded hc _ ih =>
    obtain ⟨cname, raw⟩ := c
    obtain ⟨dname, text⟩ := d
    obtain ⟨rfl, hraw⟩ := hc
    simp only at hraw
    simp only [List.mem_cons, Prod.mk.injEq, ih]
    constructor
    · rintro (⟨rfl, rfl⟩ | ⟨raw', hmem, hraw'⟩)
      · exact ⟨raw, .inl ⟨rfl, rfl⟩, hraw⟩
      · exact ⟨raw', .inr hmem, hraw'⟩
    · rintro ⟨raw', ⟨rfl, rfl⟩ | hmem, hraw'⟩
      · exact .inl ⟨rfl, Option.some.inj (hraw'.symm.trans hraw)⟩
      · exact .inr ⟨raw', hmem, hraw'⟩

/-! ## One argument -/

namespace Argument

/-- Whether the argument's own capture decodes to `t`, and `t` counts: an empty text does not where
the argument is nullable. -/
def HasText (a : Argument) (captures : Captures) (t : String) : Prop :=
  ∃ raw, (a.name, raw) ∈ captures ∧ decode? raw = some t ∧ ¬ (a.nullable ∧ t = "")

def IsAbsent (a : Argument) (captures : Captures) : Prop :=
  ∀ t, ¬ a.HasText captures t

/-- Whether the argument's text reads under its type or, without a text, something makes up for
it. -/
def Settled (a : Argument) (captures : Captures) : Prop :=
  (∃ t v, a.HasText captures t ∧ a.type.read? t = some v) ∨
    a.IsAbsent captures ∧ (a.default ≠ none ∨ a.nullable)

/-- Whether `v` is what the argument's text reads as or, without a text, its default. -/
def Gives (a : Argument) (captures : Captures) (v : Value) : Prop :=
  (∃ t, a.HasText captures t ∧ a.type.read? t = some v) ∨
    a.IsAbsent captures ∧ a.default = some v

/-- Whether the argument is not settled, and the error that says so. -/
def Fails (a : Argument) (route : String) (captures : Captures) (e : NavigationError) : Prop :=
  (∃ t, a.HasText captures t ∧ a.type.read? t = none ∧
      e = .invalidArgument route a.name a.type t) ∨
    a.IsAbsent captures ∧ a.default = none ∧ a.nullable = false ∧
      e = .missingArgument route a.name

section Decoded

variable {a : Argument} {route : String} {captures decoded : Captures}
  (hcaptures : (captures.map (·.1)).Nodup) (h : decodeCaptures route captures = .ok decoded)
include hcaptures h

theorem present?_eq_some_iff_hasText {t : String} :
    a.present? (decoded.lookup a.name) = some t ↔ a.HasText captures t := by
  have hdecoded : (decoded.map (·.1)).Nodup := names_decodeCaptures h ▸ hcaptures
  have hcounts : (!(a.nullable && t.isEmpty)) = true ↔ ¬ (a.nullable ∧ t = "") := by
    cases a.nullable <;> simp
  rw [present?, Option.filter_eq_some_iff, lookup_eq_some_iff_mem hdecoded, mem_decodeCaptures h,
    hcounts]
  simp only [HasText, ← exists_and_right, and_assoc]

theorem present?_eq_none_iff_isAbsent :
    a.present? (decoded.lookup a.name) = none ↔ a.IsAbsent captures := by
  simp only [IsAbsent, ← present?_eq_some_iff_hasText hcaptures h,
    Option.eq_none_iff_forall_ne_some, ne_eq]

theorem valueOf_eq_some_iff_gives {v : Value} :
    a.valueOf route (decoded.lookup a.name) = .ok (some v) ↔ a.Gives captures v := by
  rw [valueOf_eq_ok_iff, Gives, ← present?_eq_none_iff_isAbsent hcaptures h]
  simp only [← present?_eq_some_iff_hasText hcaptures h]
  constructor
  · rintro (⟨t, w, ht, hread, heq⟩ | ⟨habsent, hdefault, -⟩)
    · obtain rfl := Option.some.inj heq
      exact .inl ⟨t, ht, hread⟩
    · exact .inr ⟨habsent, hdefault.symm⟩
  · rintro (⟨t, ht, hread⟩ | ⟨habsent, hdefault⟩)
    · exact .inl ⟨t, v, ht, hread, rfl⟩
    · exact .inr ⟨habsent, hdefault.symm, nofun⟩

theorem valueOf_eq_error_iff_fails {e : NavigationError} :
    a.valueOf route (decoded.lookup a.name) = .error e ↔ a.Fails route captures e := by
  rw [Fails, ← present?_eq_none_iff_isAbsent hcaptures h]
  simp only [← present?_eq_some_iff_hasText hcaptures h]
  unfold valueOf
  cases hpresent : a.present? (decoded.lookup a.name) with
  | some t => cases hread : a.type.read? t <;> simp [hread, eq_comm (a := e)]
  | none =>
    cases hdefault : a.default with
    | some d => simp
    | none => cases hnullable : a.nullable <;> simp [eq_comm (a := e)]

theorem settled_iff_exists_valueOf :
    a.Settled captures ↔ ∃ v, a.valueOf route (decoded.lookup a.name) = .ok v := by
  rw [Settled, ← present?_eq_none_iff_isAbsent hcaptures h]
  simp only [← present?_eq_some_iff_hasText hcaptures h, valueOf_eq_ok_iff]
  constructor
  · rintro (⟨t, v, ht, hread⟩ | ⟨habsent, hdefault⟩)
    · exact ⟨some v, .inl ⟨t, v, ht, hread, rfl⟩⟩
    · exact ⟨a.default, .inr ⟨habsent, rfl, fun hnone => hdefault.resolve_left (· hnone)⟩⟩
  · rintro ⟨v, ⟨t, w, ht, hread, -⟩ | ⟨habsent, rfl, hnullable⟩⟩
    · exact .inl ⟨t, w, ht, hread⟩
    · exact .inr ⟨habsent, Decidable.or_iff_not_imp_left.2 fun hne => hnullable (not_not.1 hne)⟩

end Decoded

end Argument

/-! ## All arguments -/

/-- Reading fails with the error of the first argument that has one. -/
theorem readArguments_eq_error_iff {route : String} {arguments : List Argument}
    {captures : Captures} {b : Bundle} {e : NavigationError}
    (hnames : (arguments.map (·.name)).Nodup) :
    readArguments route arguments captures b = .error e ↔
      FirstFailure (fun a e => a.valueOf route (captures.lookup a.name) = .error e)
        arguments e := by
  induction arguments generalizing captures b with
  | nil => simp [readArguments, not_firstFailure_nil]
  | cons a arguments ih =>
    rw [List.map_cons, List.nodup_cons] at hnames
    -- what the first argument takes away is of no account to the others
    have hrest : ∀ a' ∈ arguments, ∀ e,
        a'.valueOf route ((Assoc.erase a.name captures).lookup a'.name) = .error e ↔
          a'.valueOf route (captures.lookup a'.name) = .error e := by
      intro a' ha' e
      have hne : a'.name ≠ a.name := fun heq => hnames.1 (heq ▸ List.mem_map_of_mem ha')
      rw [Assoc.lookup_erase hne]
    rw [readArguments, firstFailure_cons, ← FirstFailure.congr hrest]
    cases hvalue : a.valueOf route (captures.lookup a.name) with
    | error e' => simp
    | ok v => cases v <;> simp [ih hnames.2]

theorem names_bundleOf_nodup {arguments : List Argument} {captures : Captures}
    (hnames : (arguments.map (·.name)).Nodup) (hcaptures : (captures.map (·.1)).Nodup)
    (value : Argument → Option Value) :
    ((bundleOf arguments value captures).entries.map (·.1)).Nodup := by
  have hvalues : ((arguments.filterMap fun a => (value a).map (a.name, ·)).map (·.1)).Sublist
      (arguments.map (·.name)) := by
    induction arguments with
    | nil => exact List.Sublist.slnil
    | cons a arguments ih =>
      rw [List.map_cons, List.nodup_cons] at hnames
      rw [List.filterMap_cons]
      cases value a with
      | none => exact (ih hnames.2).cons _
      | some v => exact (ih hnames.2).cons_cons _
  have hleft : ((captures.filter fun c => c.1 ∉ arguments.map (·.name)).map (·.1)).Sublist
      (captures.map (·.1)) := List.filter_sublist.map _
  rw [bundleOf, List.map_append, List.map_map, List.nodup_append]
  refine ⟨hnames.sublist hvalues, hcaptures.sublist hleft, ?_⟩
  intro name hname other hother
  obtain ⟨c, hc, rfl⟩ := List.mem_map.1 hother
  have hundeclared := (List.mem_filter.1 hc).2
  rw [decide_eq_true_eq] at hundeclared
  rintro rfl
  exact hundeclared (hvalues.subset hname)

section Outcome

variable {arguments : List Argument} {route : String} {captures decoded : Captures}
  (hnames : (arguments.map (·.name)).Nodup) (hcaptures : (captures.map (·.1)).Nodup)
include hnames hcaptures

theorem exists_decodeArguments_iff :
    (∃ b, decodeArguments arguments route captures = .ok b) ↔
      (∀ c ∈ captures, ∃ t, decode? c.2 = some t) ∧ ∀ a ∈ arguments, a.Settled captures := by
  rw [← exists_decodeCaptures_iff route]
  constructor
  · rintro ⟨b, hb⟩
    obtain ⟨decoded, value, hdecode, hvalue, -⟩ :=
      (decodeArguments_eq_ok_iff hnames hcaptures).1 hb
    refine ⟨⟨decoded, hdecode⟩, fun a ha => ?_⟩
    exact (Argument.settled_iff_exists_valueOf hcaptures hdecode).2 ⟨value a, hvalue a ha⟩
  · rintro ⟨⟨decoded, hdecode⟩, hsettled⟩
    have hvalue : ∀ a : Argument, ∃ v, a ∈ arguments →
        a.valueOf route (decoded.lookup a.name) = .ok v := by
      intro a
      by_cases ha : a ∈ arguments
      · obtain ⟨v, hv⟩ :=
          (Argument.settled_iff_exists_valueOf hcaptures hdecode).1 (hsettled a ha)
        exact ⟨v, fun _ => hv⟩
      · exact ⟨none, fun hmem => absurd hmem ha⟩
    choose value hvalue using hvalue
    exact ⟨_, (decodeArguments_eq_ok_iff hnames hcaptures).2 ⟨decoded, value, hdecode, hvalue, rfl⟩⟩

/-- A bundle has what each declared argument gives, the captures that nothing declares as strings,
and nothing else. -/
theorem get?_of_decodeArguments {b : Bundle} (h : decodeArguments arguments route captures = .ok b)
    (name : String) (v : Value) :
    b.get? name = some v ↔
      (∃ a ∈ arguments, a.name = name ∧ a.Gives captures v) ∨
        name ∉ arguments.map (·.name) ∧
          ∃ raw t, (name, raw) ∈ captures ∧ decode? raw = some t ∧ v = .string t := by
  obtain ⟨decoded, value, hdecode, hvalue, rfl⟩ :=
    (decodeArguments_eq_ok_iff hnames hcaptures).1 h
  have hdecoded : (decoded.map (·.1)).Nodup := names_decodeCaptures hdecode ▸ hcaptures
  by_cases hname : name ∈ arguments.map (·.name)
  · obtain ⟨a, ha, rfl⟩ := List.mem_map.1 hname
    have hgives : value a = some v ↔ a.Gives captures v := by
      rw [← Argument.valueOf_eq_some_iff_gives hcaptures hdecode, hvalue a ha, Except.ok.injEq]
    rw [get?_bundleOf hnames value decoded ha, hgives]
    constructor
    · intro hv
      exact .inl ⟨a, ha, rfl, hv⟩
    · rintro (⟨a', ha', heq, hv⟩ | ⟨hundeclared, -⟩)
      · rwa [List.inj_on_of_nodup_map hnames ha' ha heq] at hv
      · exact absurd hname hundeclared
  · have hnone : ¬ ∃ a ∈ arguments, a.name = name ∧ a.Gives captures v := by
      rintro ⟨a, ha, rfl, -⟩
      exact hname (List.mem_map_of_mem ha)
    rw [get?_bundleOf_of_not_mem hname, Option.map_eq_some_iff]
    simp only [lookup_eq_some_iff_mem hdecoded, mem_decodeCaptures hdecode, hname, hnone,
      not_false_eq_true, true_and, false_or]
    constructor
    · rintro ⟨t, ⟨raw, hmem, hraw⟩, rfl⟩
      exact ⟨raw, t, hmem, hraw, rfl⟩
    · rintro ⟨raw, t, hmem, hraw, rfl⟩
      exact ⟨t, ⟨raw, hmem, hraw⟩, rfl⟩

theorem names_of_decodeArguments {b : Bundle}
    (h : decodeArguments arguments route captures = .ok b) : (b.entries.map (·.1)).Nodup := by
  obtain ⟨decoded, value, hdecode, -, rfl⟩ := (decodeArguments_eq_ok_iff hnames hcaptures).1 h
  exact names_bundleOf_nodup hnames (names_decodeCaptures hdecode ▸ hcaptures) value

theorem decodeArguments_eq_error_iff (hdecode : ∀ c ∈ captures, ∃ t, decode? c.2 = some t)
    {e : NavigationError} :
    decodeArguments arguments route captures = .error e ↔
      FirstFailure (fun a e => a.Fails route captures e) arguments e := by
  obtain ⟨decoded, hdecoded⟩ := (exists_decodeCaptures_iff route).2 hdecode
  rw [decodeArguments, hdecoded]
  simp only [readArguments_eq_error_iff hnames,
    Argument.valueOf_eq_error_iff_fails hcaptures hdecoded]

end Outcome

/-- **What decoding comes to.** For a route that a destination's pattern matches, decoding succeeds
exactly where every capture is UTF-8 and every declared argument is settled by its own. The bundle
then has the value that each argument's text reads as, the default where there is no text, and each
capture that nothing declares as a string, and nothing else. Where every capture is UTF-8 and some
argument is not settled, the first such argument is blamed, with its decoded text if it has one. -/
theorem decoding_outcome {κ : Type} {d : Destination κ} {text route : String} {captures : Captures}
    (hpattern : Pattern.parse text = .ok d.pattern) (hnames : (d.arguments.map (·.name)).Nodup)
    (hmatch : d.pattern.captures? route = some captures) :
    ((∃ b, decodeArguments d.arguments route captures = .ok b) ↔
      (∀ c ∈ captures, ∃ t, decode? c.2 = some t) ∧ ∀ a ∈ d.arguments, a.Settled captures) ∧
    (∀ b, decodeArguments d.arguments route captures = .ok b →
      (b.entries.map (·.1)).Nodup ∧ ∀ name v, b.get? name = some v ↔
        (∃ a ∈ d.arguments, a.name = name ∧ a.Gives captures v) ∨
          name ∉ d.arguments.map (·.name) ∧
            ∃ raw t, (name, raw) ∈ captures ∧ decode? raw = some t ∧ v = .string t) ∧
    ((∀ c ∈ captures, ∃ t, decode? c.2 = some t) → ∀ e,
      decodeArguments d.arguments route captures = .error e ↔
        FirstFailure (fun a e => a.Fails route captures e) d.arguments e) := by
  have hcaptures : (captures.map (·.1)).Nodup :=
    (Pattern.names_nodup_of_parse hpattern).sublist (Pattern.captures?_names_sublist hmatch)
  refine ⟨exists_decodeArguments_iff hnames hcaptures, fun b hb => ?_, fun hdecode e => ?_⟩
  · exact ⟨names_of_decodeArguments hnames hcaptures hb,
      get?_of_decodeArguments hnames hcaptures hb⟩
  · exact decodeArguments_eq_error_iff hnames hcaptures hdecode

/-- An empty nullable argument falls back to its default, one that the pattern lacks stays absent,
and an undeclared placeholder is a string. Of two arguments that are not settled the first is
blamed. -/
theorem decoding_outcome_item :
    let text := "item/{tag}/{id}?page={page}&q={q}"
    let pattern : Pattern :=
      ⟨text, [.fixed "item", .placeholder "tag", .placeholder "id"],
        [⟨"page", "page"⟩, ⟨"q", "q"⟩]⟩
    let q : Argument := ⟨"q", .string, true, some (.string "all")⟩
    let id : Argument := ⟨"id", .int, false, none⟩
    let arguments := [q, id, ⟨"page", .int, false, none⟩, ⟨"hint", .bool, true, none⟩]
    Pattern.parse text = .ok pattern ∧ (arguments.map (·.name)).Nodup ∧
    (∃ captures b, pattern.captures? "item/a%20b/+5?q=&page=02" = some captures ∧
      decodeArguments arguments "item/a%20b/+5?q=&page=02" captures = .ok b ∧
      (∀ a ∈ arguments, a.Settled captures) ∧
      b.get? "q" = some (.string "all") ∧ q.Gives captures (.string "all") ∧
      b.get? "tag" = some (.string "a b") ∧ ("tag", "a%20b") ∈ captures) ∧
    ∃ captures, pattern.captures? "item/a/%78?page=no" = some captures ∧
      decodeArguments arguments "item/a/%78?page=no" captures =
        .error (.invalidArgument "item/a/%78?page=no" "id" .int "x") ∧
      FirstFailure (fun a e => a.Fails "item/a/%78?page=no" captures e) arguments
        (.invalidArgument "item/a/%78?page=no" "id" .int "x") := by
  intro text pattern q id arguments
  have hpattern : Pattern.parse text = .ok pattern := by decide +kernel
  have hnames : (arguments.map (·.name)).Nodup := by decide
  let d : Destination Unit := ⟨pattern, arguments, ()⟩
  refine ⟨hpattern, hnames, ?_, ?_⟩
  · let captures : Captures := [("tag", "a%20b"), ("id", "+5"), ("page", "02"), ("q", "")]
    let b : Bundle :=
      ⟨[("q", .string "all"), ("id", .int 5), ("page", .int 2), ("tag", .string "a b")]⟩
    have hmatch : pattern.captures? "item/a%20b/+5?q=&page=02" = some captures := by
      decide +kernel
    have hb : decodeArguments arguments "item/a%20b/+5?q=&page=02" captures = .ok b := by
      decide +kernel
    obtain ⟨hsucceeds, hbundle, -⟩ := decoding_outcome (d := d) hpattern hnames hmatch
    have hq : b.get? "q" = some (.string "all") := by decide
    have hgives : q.Gives captures (.string "all") := by
      obtain ⟨a, ha, hname, hgives⟩ | ⟨hundeclared, -⟩ := ((hbundle b hb).2 _ _).1 hq
      · rwa [List.inj_on_of_nodup_map hnames ha (List.mem_cons_self (a := q)) hname] at hgives
      · exact absurd (List.mem_cons_self (a := "q")) hundeclared
    exact ⟨captures, b, hmatch, hb, (hsucceeds.1 ⟨b, hb⟩).2, hq, hgives, by decide,
      List.mem_cons_self⟩
  · let captures : Captures := [("tag", "a"), ("id", "%78"), ("page", "no")]
    have hmatch : pattern.captures? "item/a/%78?page=no" = some captures := by decide +kernel
    have he : decodeArguments arguments "item/a/%78?page=no" captures =
        .error (.invalidArgument "item/a/%78?page=no" "id" .int "x") := by decide +kernel
    obtain ⟨-, -, hfails⟩ := decoding_outcome (d := d) hpattern hnames hmatch
    have hdecode : ∀ c ∈ captures, ∃ t, decode? c.2 = some t := by
      intro c hc
      rw [← Option.isSome_iff_exists]
      revert c
      decide +kernel
    exact ⟨captures, hmatch, he, (hfails hdecode _).1 he⟩

end ScreenRoutes
