import ScreenRoutes.Text.Decimal

/-!
# Printed numbers read back

Reading undoes printing for every number (`readInt?_printInt`) and so for every number of 32 bits
(`readInt32?_printInt`). A printed number is digits after at most one minus sign.
-/

namespace ScreenRoutes.Text

/-! ## Digits -/

theorem readDigits?_toDigits (n : Nat) : readDigits? (Nat.toDigits 10 n) = some n := by
  have hne : (Nat.toDigits 10 n).isEmpty = false := by simp [Nat.toDigits_ne_nil]
  have hdigits : (Nat.toDigits 10 n).all Char.isDigit = true :=
    List.all_eq_true.2 fun _ hc => Nat.isDigit_of_mem_toDigits (by decide) (by decide) hc
  simp [readDigits?, hne, hdigits, Nat.ofDigitChars_ten_toDigits]

theorem mem_printInt {n : Int} {c : Char} (h : c ∈ printInt n) : c.isDigit ∨ c = '-' := by
  have hdigit {m : Nat} (hc : c ∈ Nat.toDigits 10 m) : c.isDigit :=
    Nat.isDigit_of_mem_toDigits (by decide) (by decide) hc
  rw [printInt] at h
  split at h
  · rcases List.mem_cons.1 h with rfl | h
    · exact .inr rfl
    · exact .inl (hdigit h)
  · exact .inl (hdigit h)

theorem printInt_ne_nil (n : Int) : printInt n ≠ [] := by
  rw [printInt]
  split
  · simp
  · exact Nat.toDigits_ne_nil

/-! ## Reading back -/

/-- A text that starts with a digit has no sign. -/
theorem readInt?_of_digit {c : Char} (h : c.isDigit) (cs : List Char) :
    readInt? (c :: cs) = (readDigits? (c :: cs)).map Int.ofNat := by
  rw [readInt?]
  · rintro _ ⟨⟩
    exact absurd h (by decide)
  · rintro _ ⟨⟩
    exact absurd h (by decide)

theorem readInt?_printInt (n : Int) : readInt? (printInt n) = some n := by
  rw [printInt]
  split
  · next hneg =>
    rw [readInt?, readDigits?_toDigits]
    show some (-(n.natAbs : Int)) = some n
    congr 1
    omega
  · next hnonneg =>
    obtain ⟨c, cs, hcs⟩ :=
      List.exists_cons_of_ne_nil (Nat.toDigits_ne_nil (b := 10) (n := n.natAbs))
    have hc : c.isDigit := by
      refine Nat.isDigit_of_mem_toDigits (b := 10) (n := n.natAbs) (by decide) (by decide) ?_
      rw [hcs]
      exact List.mem_cons_self
    rw [hcs, readInt?_of_digit hc, ← hcs, readDigits?_toDigits, Option.map_some]
    congr 1
    simp only [Int.ofNat_eq_natCast]
    omega

theorem int32?_toInt (n : Int32) : int32? n.toInt = some n := by
  have hlow : leastInt32 ≤ n.toInt := n.minValue_le_toInt
  have hhigh : n.toInt ≤ greatestInt32 := n.toInt_le
  rw [int32?, if_pos ⟨hlow, hhigh⟩, Int32.ofInt_toInt]

/-- **Reading undoes printing for numbers of 32 bits.** -/
theorem readInt32?_printInt (n : Int32) : readInt32? (printInt n.toInt) = some n := by
  rw [readInt32?, readInt?_printInt, Option.bind_some, int32?_toInt]

end ScreenRoutes.Text
