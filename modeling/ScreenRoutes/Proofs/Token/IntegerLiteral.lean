import Mathlib.Data.Nat.Digits.Defs
import ScreenRoutes.Token.Literal

/-!
# Integer literals

An integer literal has a base, digits with underscores anywhere among them, and a suffix; an
`IntegerLiteral` is one by construction. Exactly the texts of these are read as integers, each with
the value of its digits (`integerValue?_eq_some_iff`).
-/

namespace ScreenRoutes

open Text

/-! ## The grammar -/

inductive IntegerBase where
  | binary
  | octal
  | decimal
  | hexadecimal
  deriving DecidableEq, Repr

namespace IntegerBase

def radix : IntegerBase → Nat
  | .binary => 2
  | .octal => 8
  | .decimal => 10
  | .hexadecimal => 16

/-- How a literal of the base starts. -/
def mark : IntegerBase → List Char
  | .binary => ['0', 'b']
  | .octal => ['0', 'o']
  | .decimal => []
  | .hexadecimal => ['0', 'x']

def IsDigit (b : IntegerBase) (c : Char) : Prop :=
  ∃ d < b.radix, hexValue? c = some d

/-- What may stand behind the digits: nothing, or an identifier that does not go on with them. Behind
decimal digits it is no exponent. -/
structure IsSuffix (b : IntegerBase) (suffix : List Char) : Prop where
  identifier : suffix ≠ [] → isIdentifier suffix
  separate : ∀ c ∈ suffix.head?, c ≠ '_' ∧ ¬ b.IsDigit c
  plain : b = .decimal → ∀ c cs, suffix = c :: cs → c = 'e' ∨ c = 'E' → ¬ isExponent cs

end IntegerBase

/-- An integer literal. A decimal one starts with a digit, and with none that is the mark of another
base. -/
structure IntegerLiteral where
  base : IntegerBase
  digits : List Char
  suffix : List Char
  digits_valid : ∀ c ∈ digits, c = '_' ∨ base.IsDigit c
  digit_mem : ∃ c ∈ digits, base.IsDigit c
  suffix_valid : base.IsSuffix suffix
  starts : base = .decimal → digits.head? ≠ some '_'
  unmarked : base = .decimal → digits = ['0'] → ∀ c ∈ suffix.head?, c ∉ ['x', 'o', 'b']

namespace IntegerLiteral

def text (l : IntegerLiteral) : String :=
  String.ofList (l.base.mark ++ l.digits ++ l.suffix)

/-- The number that the digits stand for; underscores have no value. -/
def value (l : IntegerLiteral) : Nat :=
  Nat.ofDigits l.base.radix (l.digits.filterMap hexValue?).reverse

end IntegerLiteral

/-! ## Digits -/

theorem isDigit_iff {c : Char} : c.isDigit ↔ 0x30 ≤ c.toNat ∧ c.toNat ≤ 0x39 := by
  rw [Char.isDigit, Bool.and_eq_true, decide_eq_true_eq, decide_eq_true_eq]
  exact and_congr UInt32.le_iff_toNat_le UInt32.le_iff_toNat_le

/-- What is no decimal digit has a value from ten on, if any. -/
theorem le_of_hexValue? {c : Char} {d : Nat} (hvalue : hexValue? c = some d) (h : ¬ c.isDigit) :
    10 ≤ d := by
  have hrange := mt isDigit_iff.2 h
  rw [hexValue?, if_neg hrange] at hvalue
  split at hvalue
  · have hd := Option.some.inj hvalue
    omega
  · split at hvalue
    · have hd := Option.some.inj hvalue
      omega
    · cases hvalue

theorem hexValue?_lt {c : Char} {d : Nat} (h : hexValue? c = some d) : d < 16 := by
  rw [hexValue?] at h
  split_ifs at h
  all_goals
    have hd := Option.some.inj h
    omega

theorem not_isDigit_of_isIdentifierStart {c : Char} (h : isIdentifierStart c) : ¬ c.isDigit := by
  intro hdigit
  have hrange := isDigit_iff.1 hdigit
  have hdigits : ∀ n < 0x3A, 0x30 ≤ n → ((Char.ofNat n).isAlpha || Char.ofNat n == '_') = false := by
    decide
  have hletter := hdigits c.toNat (by omega) hrange.1
  rw [Char.ofNat_toNat] at hletter
  rw [isIdentifierStart, if_pos (by omega), hletter] at h
  cases h

theorem isIdentifierStart_of_isIdentifier {c : Char} {cs : List Char} (h : isIdentifier (c :: cs)) :
    isIdentifierStart c := by
  rw [isIdentifier, Bool.and_eq_true] at h
  exact h.1

theorem hexValue?_of_digitOf? {base d : Nat} {c : Char} (h : digitOf? base c = some d) :
    hexValue? c = some d := by
  rw [digitOf?] at h
  split at h
  · exact h
  · split at h
    · exact h
    · cases h

namespace IntegerBase

variable {b : IntegerBase} {c : Char}

theorem not_isDigit_underscore (b : IntegerBase) : ¬ b.IsDigit '_' := by
  rintro ⟨d, -, hvalue⟩
  have hnone : hexValue? '_' = none := by decide
  rw [hnone] at hvalue
  cases hvalue

/-- The digits that are looked at in a base are all that it has. -/
theorem digitOf?_of_lt {d : Nat} (hvalue : hexValue? c = some d) (h : d < b.radix) :
    digitOf? b.radix c = some d := by
  rw [digitOf?]
  split
  · exact hvalue
  · next hdigit =>
    have hle := le_of_hexValue? hvalue hdigit
    rw [if_pos (by omega), hvalue]

theorem not_isDigit_of_digitOf? (h : digitOf? b.radix c = none) : ¬ b.IsDigit c := by
  rintro ⟨d, hlt, hvalue⟩
  rw [digitOf?_of_lt hvalue hlt] at h
  cases h

theorem radix_eq_ten : b.radix = 10 ↔ b = .decimal := by
  cases b <;> simp [radix]

theorem radix_of_ten_lt (h : 10 < b.radix) : b.radix = 16 := by
  revert h
  cases b <;> decide

/-- An identifier starts with no digit that is looked at, unless it is one of the base. -/
theorem digitOf?_eq_none (hstart : isIdentifierStart c) (h : ¬ b.IsDigit c) :
    digitOf? b.radix c = none := by
  cases hd : digitOf? b.radix c with
  | none => rfl
  | some d =>
    have hvalue := hexValue?_of_digitOf? hd
    have hlt := hexValue?_lt hvalue
    have hle : b.radix ≤ d := Nat.le_of_not_lt fun hlt => h ⟨d, hlt, hvalue⟩
    rw [digitOf?, if_neg (not_isDigit_of_isIdentifierStart hstart)] at hd
    split at hd
    · next hradix =>
      rw [radix_of_ten_lt hradix] at hle
      omega
    · cases hd

theorem IsDigit.isDigit (h : decimal.IsDigit c) : c.isDigit := by
  obtain ⟨d, hlt, hvalue⟩ := h
  by_contra hdigit
  have hle := le_of_hexValue? hvalue hdigit
  have hradix : decimal.radix = 10 := rfl
  omega

end IntegerBase

/-! ## Reading digits -/

/-- The number that digits go on with behind `n`. -/
def appendDigits (base n : Nat) (digits : List Char) : Nat :=
  (digits.filterMap hexValue?).foldl (fun m d => base * m + d) n

theorem appendDigits_underscore (base n : Nat) (digits : List Char) :
    appendDigits base n ('_' :: digits) = appendDigits base n digits := by
  rw [appendDigits, List.filterMap_cons_none (by decide), appendDigits]

theorem appendDigits_cons {base d : Nat} {c : Char} (h : hexValue? c = some d) (n : Nat)
    (digits : List Char) :
    appendDigits base n (c :: digits) = appendDigits base (base * n + d) digits := by
  rw [appendDigits, List.filterMap_cons_some h, List.foldl_cons, appendDigits]

theorem appendDigits_zero (base : Nat) (digits : List Char) :
    appendDigits base 0 digits = Nat.ofDigits base (digits.filterMap hexValue?).reverse := by
  rw [appendDigits, Nat.ofDigits_eq_foldr, List.foldr_reverse]
  congr 1
  funext m d
  simp [Nat.add_comm]

section

variable {b : IntegerBase} {digits suffix : List Char}

/-- Digits are read one after the other. -/
theorem integerDigits?_append (h : ∀ c ∈ digits, c = '_' ∨ b.IsDigit c) (n : Nat) (seen : Bool)
    (behind : List Char) :
    integerDigits? b.radix n seen (digits ++ behind) =
      integerDigits? b.radix (appendDigits b.radix n digits) (seen || digits.any (· != '_'))
        behind := by
  induction digits generalizing n seen with
  | nil => simp [appendDigits]
  | cons c digits ih =>
    obtain ⟨hc, hdigits⟩ := List.forall_mem_cons.1 h
    rw [List.cons_append, integerDigits?]
    rcases hc with rfl | ⟨d, hlt, hvalue⟩
    · rw [if_pos rfl, ih hdigits, appendDigits_underscore]
      simp
    · have hne : c ≠ '_' := by
        rintro rfl
        exact b.not_isDigit_underscore ⟨d, hlt, hvalue⟩
      rw [if_neg hne, IntegerBase.digitOf?_of_lt hvalue hlt]
      simp only [if_pos hlt, ih hdigits, appendDigits_cons hvalue]
      rw [List.any_cons, bne_iff_ne.2 hne, Bool.true_or, Bool.or_true]

theorem integerDigits?_suffix (h : b.IsSuffix suffix) (n : Nat) :
    integerDigits? b.radix n true suffix = some (n, suffix) := by
  cases suffix with
  | nil => rfl
  | cons c cs =>
    obtain ⟨hne, hdigit⟩ := h.separate c rfl
    have hidentifier : isIdentifier (c :: cs) := h.identifier (List.cons_ne_nil _ _)
    have hstart := isIdentifierStart_of_isIdentifier hidentifier
    have hpoint : ¬ (b.radix = 10 ∧ c = '.') := by
      rintro ⟨-, rfl⟩
      exact absurd hstart (by decide)
    have hexponent : ¬ (b.radix = 10 ∧ (c = 'e' ∨ c = 'E') ∧ isExponent cs) := by
      rintro ⟨hradix, hletter, hexponent⟩
      exact h.plain (IntegerBase.radix_eq_ten.1 hradix) c cs rfl hletter hexponent
    rw [integerDigits?, if_neg hne, IntegerBase.digitOf?_eq_none hstart hdigit]
    simp only [if_neg hpoint, if_neg hexponent, hidentifier, Bool.true_and, if_true]

/-- What is read as digits and a suffix is made of these. -/
theorem exists_of_integerDigits? {n m : Nat} {seen : Bool} {cs : List Char}
    (h : integerDigits? b.radix n seen cs = some (m, suffix)) :
    ∃ digits, cs = digits ++ suffix ∧ (∀ c ∈ digits, c = '_' ∨ b.IsDigit c) ∧
      (seen ∨ ∃ c ∈ digits, b.IsDigit c) ∧ m = appendDigits b.radix n digits ∧
      b.IsSuffix suffix := by
  induction cs generalizing n seen with
  | nil =>
    rw [integerDigits?] at h
    split at h
    · next hseen =>
      obtain ⟨rfl, rfl⟩ := Prod.mk.inj (Option.some.inj h)
      exact ⟨[], rfl, List.forall_mem_nil _, .inl hseen, rfl, by simp, by simp, by simp⟩
    · cases h
  | cons c cs ih =>
    rw [integerDigits?] at h
    split at h
    · next hunderscore =>
      obtain ⟨digits, rfl, hvalid, hdigit, rfl, hsuffix⟩ := ih h
      rw [hunderscore]
      refine ⟨'_' :: digits, rfl, List.forall_mem_cons.2 ⟨.inl rfl, hvalid⟩,
        hdigit.imp_right fun ⟨d, hd, hb⟩ => ⟨d, List.mem_cons_of_mem _ hd, hb⟩,
        (appendDigits_underscore _ _ _).symm, hsuffix⟩
    · next hne =>
      split at h
      · next d hd =>
        split at h
        · next hlt =>
          have hvalue := hexValue?_of_digitOf? hd
          have hc : b.IsDigit c := ⟨d, hlt, hvalue⟩
          obtain ⟨digits, rfl, hvalid, -, rfl, hsuffix⟩ := ih h
          exact ⟨c :: digits, rfl, List.forall_mem_cons.2 ⟨.inr hc, hvalid⟩,
            .inr ⟨c, List.mem_cons_self, hc⟩, (appendDigits_cons hvalue _ _).symm, hsuffix⟩
        · cases h
      · next hd =>
        split at h
        · cases h
        · split at h
          · cases h
          · next hexponent =>
            split at h
            · next hend =>
              rw [Bool.and_eq_true] at hend
              obtain ⟨rfl, rfl⟩ := Prod.mk.inj (Option.some.inj h)
              refine ⟨[], rfl, List.forall_mem_nil _, .inl hend.1, rfl, fun _ => hend.2, ?_, ?_⟩
              · rintro _ ⟨⟩
                exact ⟨hne, IntegerBase.not_isDigit_of_digitOf? hd⟩
              · rintro rfl _ _ ⟨⟩ hletter hbehind
                exact hexponent ⟨rfl, hletter, hbehind⟩
            · cases h

end

/-! ## Reading literals -/

/-- Whether text does not start like a literal of a base of its own. -/
def Unmarked (cs : List Char) : Prop :=
  ∀ c ∈ ['x', 'o', 'b'], ∀ more, cs ≠ '0' :: c :: more

theorem integerBase_mark {b : IntegerBase} (h : b ≠ .decimal) (cs : List Char) :
    integerBase (b.mark ++ cs) = (b.radix, cs) := by
  cases b with
  | decimal => exact absurd rfl h
  | binary => rfl
  | octal => rfl
  | hexadecimal => rfl

theorem integerBase_of_unmarked {cs : List Char} (h : Unmarked cs) : integerBase cs = (10, cs) := by
  rw [integerBase.eq_def]
  split
  · exact absurd rfl (h 'x' (by decide) _)
  · exact absurd rfl (h 'o' (by decide) _)
  · exact absurd rfl (h 'b' (by decide) _)
  · rfl

/-- What an integer literal starts with tells its base. -/
theorem exists_integerBase (cs : List Char) :
    ∃ (b : IntegerBase) (behind : List Char), integerBase cs = (b.radix, behind) ∧
      cs = b.mark ++ behind ∧ (b = .decimal → Unmarked behind) := by
  rw [integerBase.eq_def]
  split
  · next more => exact ⟨.hexadecimal, more, rfl, rfl, nofun⟩
  · next more => exact ⟨.octal, more, rfl, rfl, nofun⟩
  · next more => exact ⟨.binary, more, rfl, rfl, nofun⟩
  · next hx ho hb =>
    refine ⟨.decimal, cs, rfl, rfl, fun _ c hc more heq => ?_⟩
    simp only [List.mem_cons, List.not_mem_nil, or_false] at hc
    rcases hc with rfl | rfl | rfl
    · exact hx more heq
    · exact ho more heq
    · exact hb more heq

namespace IntegerLiteral

variable {l : IntegerLiteral}

theorem exists_digits_cons (l : IntegerLiteral) : ∃ c digits, l.digits = c :: digits := by
  obtain ⟨d, hd, -⟩ := l.digit_mem
  exact List.exists_cons_of_ne_nil (List.ne_nil_of_mem hd)

/-- A decimal literal starts with a digit. -/
theorem isDigit_of_decimal (h : l.base = .decimal) {c : Char} {digits : List Char}
    (hdigits : l.digits = c :: digits) : c.isDigit := by
  have hne : c ≠ '_' := by
    intro hc
    exact l.starts h (by rw [hdigits, List.head?_cons, hc])
  have hc := (l.digits_valid c (by rw [hdigits]; exact List.mem_cons_self)).resolve_left hne
  rw [h] at hc
  exact hc.isDigit

theorem unmarked_of_decimal (h : l.base = .decimal) : Unmarked (l.digits ++ l.suffix) := by
  intro c hc more heq
  have hmark : ¬ (c = '_' ∨ c.isDigit) := by
    simp only [List.mem_cons, List.not_mem_nil, or_false] at hc
    rcases hc with rfl | rfl | rfl <;> decide
  obtain ⟨d, digits, hdigits⟩ := l.exists_digits_cons
  rw [hdigits, List.cons_append] at heq
  obtain ⟨rfl, hbehind⟩ := List.cons.inj heq
  cases digits with
  | nil =>
    have hsuffix : l.suffix = c :: more := hbehind
    have hhead : c ∈ l.suffix.head? := by
      rw [hsuffix]
      rfl
    exact l.unmarked h hdigits c hhead hc
  | cons e digits =>
    have he := l.digits_valid e (by simp [hdigits])
    rw [h, (List.cons.inj hbehind).1] at he
    exact hmark (he.imp_right IntegerBase.IsDigit.isDigit)

/-- The literal is read from its digits on. -/
theorem integerParts?_text (l : IntegerLiteral) :
    integerParts? l.text = integerDigits? l.base.radix 0 false (l.digits ++ l.suffix) := by
  have htext : l.text.toList = l.base.mark ++ (l.digits ++ l.suffix) := by
    rw [text, String.toList_ofList, List.append_assoc]
  have hbase : integerBase l.text.toList = (l.base.radix, l.digits ++ l.suffix) := by
    rw [htext]
    by_cases h : l.base = .decimal
    · rw [h]
      exact integerBase_of_unmarked (unmarked_of_decimal h)
    · exact integerBase_mark h _
  have hstart : ∃ c cs, l.text.toList = c :: cs ∧ c.isDigit := by
    rw [htext]
    cases hb : l.base with
    | decimal =>
      obtain ⟨d, digits, hdigits⟩ := l.exists_digits_cons
      exact ⟨d, digits ++ l.suffix, by rw [hdigits]; rfl, isDigit_of_decimal hb hdigits⟩
    | binary => exact ⟨'0', _, rfl, rfl⟩
    | octal => exact ⟨'0', _, rfl, rfl⟩
    | hexadecimal => exact ⟨'0', _, rfl, rfl⟩
  obtain ⟨c, cs, hcons, hdigit⟩ := hstart
  rw [hcons] at hbase
  rw [integerParts?, hcons]
  simp only [if_pos hdigit, hbase]

theorem integerValue?_text (l : IntegerLiteral) : integerValue? l.text = some l.value := by
  have hdigit : l.digits.any (· != '_') = true := by
    obtain ⟨c, hc, hdigit⟩ := l.digit_mem
    refine List.any_eq_true.2 ⟨c, hc, bne_iff_ne.2 ?_⟩
    rintro rfl
    exact l.base.not_isDigit_underscore hdigit
  rw [integerValue?, integerParts?_text, integerDigits?_append l.digits_valid, hdigit,
    Bool.or_true, integerDigits?_suffix l.suffix_valid, appendDigits_zero]
  rfl

end IntegerLiteral

theorem exists_integerLiteral {text : String} {n : Nat} (h : integerValue? text = some n) :
    ∃ l : IntegerLiteral, text = l.text ∧ n = l.value := by
  obtain ⟨⟨m, suffix⟩, hparts, rfl⟩ := Option.map_eq_some_iff.1 h
  rw [integerParts?] at hparts
  split at hparts
  · cases hparts
  · next c cs htext =>
    split at hparts
    · next hdigit =>
      obtain ⟨b, behind, hbase, hcs, hunmarked⟩ := exists_integerBase (c :: cs)
      rw [hbase] at hparts
      obtain ⟨digits, rfl, hvalid, hmem, rfl, hsuffix⟩ := exists_of_integerDigits? hparts
      have hmem := hmem.resolve_left Bool.false_ne_true
      have hstarts : b = .decimal → digits.head? ≠ some '_' := by
        rintro rfl hhead
        obtain ⟨digits, rfl⟩ := List.head?_eq_some_iff.1 hhead
        rw [(List.cons.inj hcs).1] at hdigit
        exact absurd hdigit (by decide)
      have hzero : b = .decimal → digits = ['0'] → ∀ x ∈ suffix.head?, x ∉ ['x', 'o', 'b'] := by
        rintro hb rfl x hx hmark
        obtain ⟨more, rfl⟩ := List.head?_eq_some_iff.1 hx
        exact hunmarked hb x hmark more rfl
      have hwritten : text = String.ofList (b.mark ++ digits ++ suffix) := by
        rw [List.append_assoc, ← hcs, ← htext, String.ofList_toList]
      exact ⟨⟨b, digits, suffix, hvalid, hmem, hsuffix, hstarts, hzero⟩, hwritten,
        appendDigits_zero _ _⟩
    · cases hparts

/-- **Exactly the texts of integer literals are read as integers**, each as the number that its
digits stand for. -/
theorem integerValue?_eq_some_iff {text : String} {n : Nat} :
    integerValue? text = some n ↔ ∃ l : IntegerLiteral, text = l.text ∧ n = l.value := by
  constructor
  · exact exists_integerLiteral
  · rintro ⟨l, rfl, rfl⟩
    exact l.integerValue?_text

end ScreenRoutes
