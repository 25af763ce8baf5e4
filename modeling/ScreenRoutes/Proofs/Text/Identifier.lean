import Mathlib.Data.List.Sort
import ScreenRoutes.Proofs.Text.CodePoints
import ScreenRoutes.Text.IdentifierChar
import ScreenRoutes.Text.Upper

/-!
# Identifiers in upper case

Whatever an identifier may start with, it may also go on with (`isIdentifierRest_of_start`), and so
may its upper form, however many characters that has (`isIdentifierRest_upper`). Both are facts about
the tables, checked on the bounds of their spans.
-/

namespace ScreenRoutes.Text

set_option maxRecDepth 10000

/-! ## The tables as spans -/

/-- The bounds of XID_Continue, those of ASCII in front. -/
def restBounds : List Nat :=
  0x30 :: 0x3A :: 0x41 :: 0x5B :: 0x5F :: 0x60 :: 0x61 :: 0x7B :: identifierRestBounds

theorem isChain_identifierRestBounds : identifierRestBounds.IsChain (· < ·) := by
  decide +kernel

theorem isChain_identifierStartBounds : identifierStartBounds.IsChain (· < ·) := by
  decide +kernel

/-- A code point in one of the spans may go on an identifier. -/
theorem isIdentifierRest_of_inSpans {c : Char} (h : InSpans restBounds c.toNat) :
    isIdentifierRest c := by
  simp only [restBounds, InSpans] at h
  by_cases hascii : c.toNat < 0x80
  · have hmisses : missesRange identifierRestBounds 0 0x7F := by decide +kernel
    have hnot := not_inSpans_of_missesRange hmisses (Nat.zero_le _) (Nat.le_of_lt_succ hascii)
    have hrest : ∀ n < 0x80,
        (0x30 ≤ n ∧ n < 0x3A) ∨ (0x41 ≤ n ∧ n < 0x5B) ∨ (0x5F ≤ n ∧ n < 0x60) ∨
            (0x61 ≤ n ∧ n < 0x7B) →
          isIdentifierRest (Char.ofNat n) := by
      decide +kernel
    rw [← Char.ofNat_toNat c]
    refine hrest _ hascii ?_
    simpa only [hnot, or_false] using h
  · rw [isIdentifierRest, if_neg hascii, inBounds_iff_inSpans isChain_identifierRestBounds]
    obtain h | h | h | h | h := h
    · omega
    · omega
    · omega
    · omega
    · exact h

theorem inSpans_of_isIdentifierStart {c : Char} (hascii : ¬ c.toNat < 0x80)
    (h : isIdentifierStart c) : InSpans identifierStartBounds c.toNat := by
  rw [isIdentifierStart, if_neg hascii] at h
  exact (inBounds_iff_inSpans isChain_identifierStartBounds c).1 h

/-- In ASCII, whatever an identifier may start with has an upper form with which it may go on. -/
theorem isIdentifierRest_toUpper {c : Char} (hascii : c.toNat < 0x80) (h : isIdentifierStart c) :
    isIdentifierRest c.toUpper := by
  have hall : ∀ n < 0x80, isIdentifierStart (Char.ofNat n) →
      isIdentifierRest (Char.ofNat n).toUpper := by
    decide +kernel
  rw [← Char.ofNat_toNat c] at h ⊢
  exact hall _ hascii h

/-- Whatever an identifier may start with, it may also go on with. -/
theorem isIdentifierRest_of_start {c : Char} (h : isIdentifierStart c) : isIdentifierRest c := by
  by_cases hascii : c.toNat < 0x80
  · rw [isIdentifierStart, if_pos hascii, Bool.or_eq_true] at h
    rw [isIdentifierRest, if_pos hascii, Bool.or_eq_true, Char.isAlphanum, Bool.or_eq_true]
    exact h.imp_left .inl
  · have hwithin : spansWithin identifierStartBounds identifierRestBounds := by decide +kernel
    rw [isIdentifierRest, if_neg hascii, inBounds_iff_inSpans isChain_identifierRestBounds]
    exact inSpans_of_spansWithin hwithin (inSpans_of_isIdentifierStart hascii h)

/-! ## Upper forms above ASCII -/

/-- Whether all code points from `first` up to `last` are characters. -/
def areCharacters (first last : Nat) : Bool :=
  Nat.blt last 0xD800 || (Nat.ble 0xE000 first && Nat.blt last 0x110000)

theorem isIdentifierRest_ofNat {first last n : Nat} (h : areCharacters first last)
    (hspan : InSpans restBounds n) (hfirst : first ≤ n) (hlast : n ≤ last) :
    isIdentifierRest (Char.ofNat n) := by
  simp only [areCharacters, Bool.and_eq_true, Bool.or_eq_true, Nat.blt_eq, Nat.ble_eq] at h
  have hvalid : n.isValidChar := by
    rw [Nat.isValidChar]
    omega
  have hcode : (Char.ofNat n).toNat = n := by
    rw [Char.ofNat, dif_pos hvalid]
    rfl
  apply isIdentifierRest_of_inSpans
  rwa [hcode]

theorem isIdentifierRest_upperExpansions :
    ∀ e ∈ upperExpansions, ∀ n ∈ e.2, isIdentifierRest (Char.ofNat n) := by
  have hall : upperExpansions.all fun e => e.2.all fun n =>
      areCharacters n n && coversRange restBounds n n := by
    decide +kernel
  intro e he n hn
  have hn := List.all_eq_true.1 (List.all_eq_true.1 hall e he) n hn
  rw [Bool.and_eq_true] at hn
  exact isIdentifierRest_ofNat hn.1 (inSpans_of_coversRange hn.2 le_rfl le_rfl) le_rfl le_rfl

/-- The runs whose upper forms do not fill a range of their own: between those of the Greek letters
with marks some code points stand for nothing, and circled letters are no letters of identifiers. -/
def sparseRuns : List CaseRun :=
  [⟨0x1F51, 0x1F57, 2, 0x1F59⟩, ⟨0x24D0, 0x24E9, 1, 0x24B6⟩]

/-- The greatest upper form of a run. -/
def CaseRun.lastTarget (r : CaseRun) : Nat :=
  r.last - r.first + r.target

/-- The upper forms of the other runs as spans, in ascending order. -/
def upperSpans : List (Nat × Nat) :=
  ((upperRuns.filter (· ∉ sparseRuns)).map fun r => (r.target, r.lastTarget + 1)).insertionSort
    fun a b => a.1 ≤ b.1

theorem inSpans_flatMap {spans : List (Nat × Nat)} {a b n : Nat} (h : (a, b) ∈ spans) (ha : a ≤ n)
    (hb : n < b) : InSpans (spans.flatMap fun s => [s.1, s.2]) n := by
  induction spans with
  | nil => cases h
  | cons s spans ih =>
    rw [List.flatMap_cons, List.cons_append, List.cons_append, List.nil_append, InSpans]
    rcases List.mem_cons.1 h with rfl | h
    · exact .inl ⟨ha, hb⟩
    · exact .inr (ih h)

theorem CaseRun.upper?_eq_some_iff {r : CaseRun} {n m : Nat} :
    r.upper? n = some m ↔
      r.first ≤ n ∧ n ≤ r.last ∧ (n - r.first) % r.step = 0 ∧ n - r.first + r.target = m := by
  rw [upper?]
  split
  · next h => simp [h]
  · next h =>
    simp only [reduceCtorEq, false_iff]
    rintro ⟨h1, h2, h3, -⟩
    exact h ⟨h1, h2, h3⟩

theorem isIdentifierRest_of_sparse {r : CaseRun} (hr : r ∈ sparseRuns) {n m : Nat}
    (hn : InSpans identifierStartBounds n) (h : r.upper? n = some m) :
    isIdentifierRest (Char.ofNat m) := by
  obtain ⟨hfirst, hlast, hstep, rfl⟩ := CaseRun.upper?_eq_some_iff.1 h
  rw [sparseRuns, List.mem_cons, List.mem_singleton] at hr
  rcases hr with rfl | rfl
  · have hfew : n - 0x1F51 + 0x1F59 ∈ [0x1F59, 0x1F5B, 0x1F5D, 0x1F5F] := by
      simp only at hfirst hlast hstep
      simp only [List.mem_cons, List.not_mem_nil, or_false]
      omega
    have hall : ∀ m ∈ [0x1F59, 0x1F5B, 0x1F5D, 0x1F5F], isIdentifierRest (Char.ofNat m) := by
      decide +kernel
    exact hall _ hfew
  · have hmisses : missesRange identifierStartBounds 0x24D0 0x24E9 := by decide +kernel
    exact absurd hn (not_inSpans_of_missesRange hmisses hfirst hlast)

/-- The upper form that a run gives to what an identifier may start with. -/
theorem isIdentifierRest_of_upper? {r : CaseRun} (hr : r ∈ upperRuns) {n m : Nat}
    (hn : InSpans identifierStartBounds n) (h : r.upper? n = some m) :
    isIdentifierRest (Char.ofNat m) := by
  by_cases hsparse : r ∈ sparseRuns
  · exact isIdentifierRest_of_sparse hsparse hn h
  · obtain ⟨hfirst, hlast, -, rfl⟩ := CaseRun.upper?_eq_some_iff.1 h
    have hwithin : spansWithin (upperSpans.flatMap fun s => [s.1, s.2]) restBounds := by
      decide +kernel
    have hcharacters : upperRuns.all fun r => areCharacters r.target r.lastTarget := by
      decide +kernel
    have hspan : (r.target, r.lastTarget + 1) ∈ upperSpans := by
      rw [upperSpans, List.mem_insertionSort, List.mem_map]
      exact ⟨r, List.mem_filter.2 ⟨hr, by simpa using hsparse⟩, rfl⟩
    have htarget : r.target ≤ n - r.first + r.target := Nat.le_add_left _ _
    have hlastTarget : n - r.first + r.target ≤ r.lastTarget := by
      rw [CaseRun.lastTarget]
      omega
    have hin := inSpans_flatMap hspan htarget (Nat.lt_succ_of_le hlastTarget)
    exact isIdentifierRest_ofNat (List.all_eq_true.1 hcharacters r hr)
      (inSpans_of_spansWithin hwithin hin) htarget hlastTarget

/-- **Whatever an identifier may start with, it may go on with all of its upper form.** -/
theorem isIdentifierRest_upper {c : Char} (h : isIdentifierStart c) :
    ∀ u ∈ upper c, isIdentifierRest u := by
  intro u hu
  rw [upper] at hu
  split at hu
  · next hascii =>
    obtain rfl := List.mem_singleton.1 hu
    exact isIdentifierRest_toUpper hascii h
  · next hascii =>
    have hspan := inSpans_of_isIdentifierStart hascii h
    split at hu
    · next ns hlookup =>
      obtain ⟨n, hn, rfl⟩ := List.mem_map.1 hu
      obtain ⟨front, rest, hsplit, -⟩ := List.lookup_eq_some_iff.1 hlookup
      exact isIdentifierRest_upperExpansions (c.toNat, ns) (by simp [hsplit]) n hn
    · split at hu
      · next n hrun =>
        obtain rfl := List.mem_singleton.1 hu
        obtain ⟨r, hr, hupper⟩ := List.exists_of_findSome?_eq_some hrun
        exact isIdentifierRest_of_upper? hr hspan hupper
      · obtain rfl := List.mem_singleton.1 hu
        exact isIdentifierRest_of_start h

end ScreenRoutes.Text
