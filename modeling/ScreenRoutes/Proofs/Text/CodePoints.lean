import Mathlib.Data.List.Chain
import ScreenRoutes.Text.CodePoints

/-!
# Spans of code points

A set of code points that is stored as the points at which it changes sides is made of spans, each
from one bound up to the next (`inBounds_iff_inSpans`). That one set lies within another, or has all
of a range, is thereby checked on the bounds, without a look at the code points between them
(`inSpans_of_spansWithin`, `inSpans_of_coversRange`).
-/

namespace ScreenRoutes.Text

/-- Whether `n` lies in one of the spans between bounds. -/
def InSpans : (bounds : List Nat) → (n : Nat) → Prop
  | a :: b :: bounds, n => (a ≤ n ∧ n < b) ∨ InSpans bounds n
  | [a], n => a ≤ n
  | [], _ => False

theorem countP_eq_zero_of_lt {bounds : List Nat} {a n : Nat} (h : (a :: bounds).IsChain (· < ·))
    (hn : n < a) : (a :: bounds).countP (· ≤ n) = 0 := by
  rw [List.countP_eq_zero]
  intro b hb
  rw [decide_eq_true_eq]
  rcases List.mem_cons.1 hb with rfl | hb
  · omega
  · have hab := (List.pairwise_cons.1 (List.isChain_iff_pairwise.1 h)).1 b hb
    omega

/-- Between ascending bounds, an odd number of them lies at or below a code point of a span. -/
theorem countP_odd_iff_inSpans {bounds : List Nat} (h : bounds.IsChain (· < ·)) (n : Nat) :
    bounds.countP (· ≤ n) % 2 = 1 ↔ InSpans bounds n := by
  induction bounds, n using InSpans.induct with
  | case1 a b bounds n ih =>
    rw [List.isChain_cons_cons] at h
    have ih := ih h.2.of_cons
    rw [InSpans, List.countP_cons, List.countP_cons, ← ih]
    by_cases hb : b ≤ n
    · have ha : a ≤ n := by omega
      simp only [ha, hb, decide_true, if_true]
      omega
    · have hrest : bounds.countP (· ≤ n) = 0 := by
        have hzero := countP_eq_zero_of_lt h.2 (Nat.lt_of_not_le hb)
        rw [List.countP_cons] at hzero
        omega
      rw [hrest]
      by_cases ha : a ≤ n <;> simp [ha, hb]
      omega
  | case2 a n => by_cases ha : a ≤ n <;> simp [InSpans, ha]
  | case3 n => simp [InSpans]

theorem inBounds_iff_inSpans {bounds : List Nat} (h : bounds.IsChain (· < ·)) (c : Char) :
    inBounds bounds c ↔ InSpans bounds c.toNat := by
  rw [inBounds, beq_iff_eq, countP_odd_iff_inSpans h]

/-! ## Checks on the bounds -/

/-- Whether one span has all code points from `first` up to `last`. -/
def coversRange : (bounds : List Nat) → (first last : Nat) → Bool
  | a :: b :: bounds, first, last => (Nat.ble a first && Nat.blt last b) || coversRange bounds first last
  | _, _, _ => false

theorem inSpans_of_coversRange {bounds : List Nat} {first last n : Nat}
    (h : coversRange bounds first last) (hfirst : first ≤ n) (hlast : n ≤ last) :
    InSpans bounds n := by
  induction bounds, first, last using coversRange.induct with
  | case1 a b bounds first last ih =>
    rw [coversRange, Bool.or_eq_true, Bool.and_eq_true, Nat.ble_eq, Nat.blt_eq] at h
    rw [InSpans]
    rcases h with ⟨ha, hb⟩ | h
    · left
      omega
    · exact .inr (ih h hfirst hlast)
  | case2 bounds first last => simp [coversRange] at h

/-- Whether no span has a code point from `first` up to `last`. -/
def missesRange : (bounds : List Nat) → (first last : Nat) → Bool
  | a :: b :: bounds, first, last =>
    (Nat.ble b first || Nat.blt last a) && missesRange bounds first last
  | bounds, _, _ => bounds.isEmpty

theorem not_inSpans_of_missesRange {bounds : List Nat} {first last n : Nat}
    (h : missesRange bounds first last) (hfirst : first ≤ n) (hlast : n ≤ last) :
    ¬ InSpans bounds n := by
  induction bounds, first, last using missesRange.induct with
  | case1 a b bounds first last ih =>
    rw [missesRange, Bool.and_eq_true, Bool.or_eq_true, Nat.ble_eq, Nat.blt_eq] at h
    rintro (hspan | hrest)
    · omega
    · exact ih h.2 hfirst hlast hrest
  | case2 bounds first last hshort =>
    rw [missesRange, List.isEmpty_iff] at h
    · rw [h]
      exact id
    · exact hshort

/-- The bounds without the spans in front that lie between `a` and `b`. -/
def dropSpans (a b : Nat) : (bounds : List Nat) → List Nat
  | c :: d :: bounds => if Nat.ble a c && Nat.ble d b then dropSpans a b bounds else c :: d :: bounds
  | bounds => bounds

/-- Whether each span of the first bounds lies in a span of the second, both being in order. -/
def spansWithin (inner : List Nat) : (outer : List Nat) → Bool
  | a :: b :: outer => spansWithin (dropSpans a b inner) outer
  | _ => inner.isEmpty

theorem inSpans_dropSpans {a b n : Nat} {bounds : List Nat} (h : InSpans bounds n) :
    (a ≤ n ∧ n < b) ∨ InSpans (dropSpans a b bounds) n := by
  induction bounds using dropSpans.induct a b with
  | case1 c d bounds hspan ih =>
    rw [dropSpans, if_pos hspan]
    rw [Bool.and_eq_true, Nat.ble_eq, Nat.ble_eq] at hspan
    rcases h with h | h
    · left
      omega
    · exact ih h
  | case2 c d bounds hspan =>
    rw [dropSpans, if_neg hspan]
    exact .inr h
  | case3 bounds hshort =>
    rw [dropSpans]
    · exact .inr h
    · exact hshort

theorem inSpans_of_spansWithin {inner outer : List Nat} (h : spansWithin inner outer) {n : Nat}
    (hn : InSpans inner n) : InSpans outer n := by
  induction inner, outer using spansWithin.induct with
  | case1 inner a b outer ih =>
    rw [spansWithin] at h
    rw [InSpans]
    exact (inSpans_dropSpans hn).imp id (ih h)
  | case2 inner outer hshort =>
    rw [spansWithin, List.isEmpty_iff] at h
    · subst h
      cases hn
    · exact hshort

end ScreenRoutes.Text
