import ScreenRoutes.Proofs.Grammar.LiteralForm
import ScreenRoutes.Proofs.Text.Decimal
import ScreenRoutes.Proofs.Token.IntegerLiteral
import ScreenRoutes.ScreenFunction.Default

/-!
# Integer defaults

A magnitude is read in 64 bits, negated there, and only then narrowed to 32 bits. None of this loses
anything (`toInt_wideNumber`), so an integer literal, with a minus sign in front or without, is
accepted exactly where its number fits into 32 bits, and nothing else is accepted
(`default_int_reads_int32`).
-/

namespace ScreenRoutes

open Reading

/-! ## Numbers -/

def signedNumber (negative : Bool) (magnitude : Nat) : Int :=
  if negative then -magnitude else magnitude

/-- The number as it is computed in 64 bits, the magnitude first. -/
def wideNumber (negative : Bool) (magnitude : Nat) : Int64 :=
  if negative then -Int64.ofNat magnitude else Int64.ofNat magnitude

theorem greatestMagnitude_eq : greatestMagnitude = 9223372036854775807 :=
  rfl

/-- **A magnitude that is read does not overflow in 64 bits**, nor does its negation. -/
theorem toInt_wideNumber {magnitude : Nat} (h : magnitude ≤ greatestMagnitude) (negative : Bool) :
    (wideNumber negative magnitude).toInt = signedNumber negative magnitude := by
  have hlt : magnitude < 2 ^ 63 := by
    rw [greatestMagnitude_eq] at h
    omega
  cases negative with
  | true => exact Int64.toInt_neg_ofNat_of_le hlt.le
  | false => exact Int64.toInt_ofNat_of_lt hlt

/-- A number of 32 bits is far from the greatest magnitude. -/
theorem le_greatestMagnitude {negative : Bool} {magnitude : Nat} {n : Int32}
    (h : n.toInt = signedNumber negative magnitude) : magnitude ≤ greatestMagnitude := by
  have hlow : -2147483648 ≤ n.toInt := n.minValue_le_toInt
  have hhigh : n.toInt ≤ 2147483647 := n.toInt_le
  rw [signedNumber] at h
  rw [greatestMagnitude_eq]
  split at h <;> omega

theorem exists_int32_iff {v : Int} :
    (∃ n : Int32, n.toInt = v) ↔ -2147483648 ≤ v ∧ v ≤ 2147483647 := by
  constructor
  · rintro ⟨n, rfl⟩
    exact ⟨n.minValue_le_toInt, n.toInt_le⟩
  · rintro ⟨hlow, hhigh⟩
    exact ⟨Int32.ofInt v, Int32.toInt_ofInt_of_le hlow (by omega)⟩

theorem int32?_eq_some_iff {v : Int} {n : Int32} : Text.int32? v = some n ↔ n.toInt = v := by
  constructor
  · intro h
    rw [Text.int32?] at h
    split at h
    · next hrange =>
      obtain ⟨m, hm⟩ := exists_int32_iff.2 hrange
      rw [← Option.some.inj h, ← hm, Int32.ofInt_toInt]
    · cases h
  · rintro rfl
    exact Text.int32?_toInt n

/-- A magnitude gives the number that it is with its sign, where 32 bits hold that. -/
theorem integerDefault_eq_ok_iff {negative : Bool} {magnitude : Nat} {n : Int32} :
    integerDefault negative magnitude = .ok n ↔ n.toInt = signedNumber negative magnitude := by
  have hnumber : (if negative then -(magnitude : Int) else magnitude) =
      signedNumber negative magnitude := rfl
  rw [integerDefault, hnumber]
  constructor
  · intro h
    split at h
    · cases h
    · split at h
      · next hsome =>
        obtain rfl := Except.ok.inj h
        exact int32?_eq_some_iff.1 hsome
      · cases h
  · intro h
    rw [if_neg (Nat.not_lt.2 (le_greatestMagnitude h)), int32?_eq_some_iff.2 h]

/-! ## Literals -/

namespace IntegerLiteral

variable (l : IntegerLiteral) (negative joint : Bool)

/-- The form of the literal as an expression, with a minus sign in front or without. -/
def form : ExprForm :=
  if negative then .negated l.text else .literal l.text

/-- The trees of the literal, with a minus sign in front or without. -/
def tokens : Tokens :=
  if negative then [.punct '-' joint, .literal l.text] else [.literal l.text]

theorem integer?_form : (l.form negative).integer? = some (negative, l.value) := by
  have hvalue : integerValue? l.text = some l.value := integerValue?_eq_some_iff.2 ⟨l, rfl, rfl⟩
  cases negative with
  | true => simp [form, ExprForm.integer?, hvalue]
  | false => simp [form, ExprForm.integer?, hvalue]

theorem whole_expr_tokens :
    whole ((Grammar.ofTokens (l.tokens negative joint)).expr true) (l.tokens negative joint) =
      .ok ⟨l.tokens negative joint, l.form negative, false⟩ := by
  cases negative with
  | true => exact whole_expr_negated joint l.text true
  | false => exact whole_expr_literal l.text true

theorem readInteger_tokens :
    readInteger (l.tokens negative joint) = integerDefault negative l.value := by
  rw [readInteger, whole_expr_tokens]
  simp only [liftFault, Except.mapError, bind, Except.bind, integer?_form]

end IntegerLiteral

/-- Only an integer literal has a number to be read. -/
theorem exists_of_integer? {form : ExprForm} {negative : Bool} {magnitude : Nat}
    (h : form.integer? = some (negative, magnitude)) :
    ∃ l : IntegerLiteral, form = l.form negative ∧ magnitude = l.value := by
  have hread {text : String} {sign : Bool}
      (h : (integerValue? text).map (fun n => (sign, n)) = some (negative, magnitude)) :
      sign = negative ∧ ∃ l : IntegerLiteral, text = l.text ∧ magnitude = l.value := by
    obtain ⟨n, hn, heq⟩ := Option.map_eq_some_iff.1 h
    obtain ⟨rfl, rfl⟩ := Prod.mk.inj heq
    exact ⟨rfl, integerValue?_eq_some_iff.1 hn⟩
  cases form with
  | literal text =>
    obtain ⟨rfl, l, rfl, hvalue⟩ := hread h
    exact ⟨l, rfl, hvalue⟩
  | negated text =>
    obtain ⟨rfl, l, rfl, hvalue⟩ := hread h
    exact ⟨l, rfl, hvalue⟩
  | _ => cases h

/-- What is read as an integer is written as an integer literal, and has its number. -/
theorem exists_of_readInteger {ts : Tokens} {n : Int32} (h : readInteger ts = .ok n) :
    ∃ (l : IntegerLiteral) (negative : Bool),
      (l.form negative).Spells ts ∧ n.toInt = signedNumber negative l.value := by
  cases hwhole : whole ((Grammar.ofTokens ts).expr true) ts with
  | error fault =>
    rw [readInteger, hwhole] at h
    cases h
  | ok e =>
    rw [readInteger, hwhole] at h
    simp only [liftFault, Except.mapError, bind, Except.bind] at h
    split at h
    · next negative magnitude hinteger =>
      obtain ⟨l, hform, rfl⟩ := exists_of_integer? hinteger
      have hliteral : e.form.isLiteral := by
        rw [hform, IntegerLiteral.form]
        split <;> rfl
      refine ⟨l, negative, ?_, integerDefault_eq_ok_iff.1 h⟩
      rw [← hform]
      exact spells_of_whole_expr true hwhole hliteral
    · cases h

/-! ## Attributes -/

/-- An attribute `default_int` with the given trees for its argument. -/
def intAttribute (written argument : Tokens) : Attribute :=
  ⟨written, some "default_int", .arguments argument⟩

theorem defaultValue_intAttribute (written argument : Tokens) :
    (intAttribute written argument).defaultValue = (do return .int (← readInteger argument)) :=
  rfl

theorem defaultValue_intAttribute_eq_ok_iff (written : Tokens) {argument : Tokens} {x : Value} :
    (intAttribute written argument).defaultValue = .ok x ↔
      ∃ n, x = .int n ∧ readInteger argument = .ok n := by
  rw [defaultValue_intAttribute]
  cases readInteger argument with
  | error fault => simp [bind, Except.bind]
  | ok n => simp [bind, Except.bind, pure, Except.pure, eq_comm]

/-- **Integer defaults are read exactly in the range of 32 bits.** An integer literal of any base and
length, with a minus sign in front or without, is accepted where its number fits, and gives that
number; on the way there nothing overflows in 64 bits. Whatever is accepted is such a literal, but
for attributes in front of it or of its minus sign. -/
theorem default_int_reads_int32 (written : Tokens) :
    (∀ (l : IntegerLiteral) (negative joint : Bool),
      let number := signedNumber negative l.value
      let outcome := (intAttribute written (l.tokens negative joint)).defaultValue
      ((∃ x, outcome = .ok x) ↔ -2147483648 ≤ number ∧ number ≤ 2147483647) ∧
      (∀ x, outcome = .ok x ↔ ∃ n : Int32, x = .int n ∧ n.toInt = number) ∧
      (greatestMagnitude < l.value → outcome = .error .hugeInteger) ∧
      (l.value ≤ greatestMagnitude → (wideNumber negative l.value).toInt = number)) ∧
    ∀ argument x, (intAttribute written argument).defaultValue = .ok x →
      ∃ (l : IntegerLiteral) (negative : Bool) (n : Int32),
        (l.form negative).Spells argument ∧ x = .int n ∧
          n.toInt = signedNumber negative l.value := by
  refine ⟨fun l negative joint => ?_, fun argument x h => ?_⟩
  · intro number outcome
    have hvalue (x : Value) : outcome = .ok x ↔ ∃ n : Int32, x = .int n ∧ n.toInt = number := by
      rw [defaultValue_intAttribute_eq_ok_iff]
      simp only [l.readInteger_tokens, integerDefault_eq_ok_iff, number]
    refine ⟨?_, hvalue, fun hhuge => ?_, fun hle => toInt_wideNumber hle negative⟩
    · rw [← exists_int32_iff]
      constructor
      · rintro ⟨x, hx⟩
        obtain ⟨n, -, hn⟩ := (hvalue x).1 hx
        exact ⟨n, hn⟩
      · rintro ⟨n, hn⟩
        exact ⟨.int n, (hvalue _).2 ⟨n, rfl, hn⟩⟩
    · have hread : readInteger (l.tokens negative joint) = .error .hugeInteger := by
        rw [l.readInteger_tokens, integerDefault, if_pos hhuge]
      simp only [outcome, defaultValue_intAttribute, hread, bind, Except.bind]
  · obtain ⟨n, rfl, hn⟩ := (defaultValue_intAttribute_eq_ok_iff written).1 h
    obtain ⟨l, negative, hspells, hnumber⟩ := exists_of_readInteger hn
    exact ⟨l, negative, n, hspells, rfl, hnumber⟩

/-- The least number is read from `-0x8000_0000u64`. -/
theorem default_int_reads_int32_least :
    (intAttribute [] [.punct '-' false, .literal "0x8000_0000u64"]).defaultValue =
      .ok (.int (-2147483648)) := by
  have hvalue : integerValue? "0x8000_0000u64" = some 2147483648 := by decide
  obtain ⟨l, htext, hnumber⟩ := integerValue?_eq_some_iff.1 hvalue
  have htokens : l.tokens true false = [.punct '-' false, .literal "0x8000_0000u64"] := by
    rw [htext]
    rfl
  obtain ⟨-, houtcome, -, -⟩ := (default_int_reads_int32 []).1 l true false
  rw [← htokens]
  refine (houtcome _).2 ⟨-2147483648, rfl, ?_⟩
  rw [← hnumber]
  decide

/-- An attribute in front of a literal is passed over. -/
theorem attributed_default_accepted :
    (intAttribute [] [.punct '#' false, .group .bracket [.ident "a"], .literal "3"]).defaultValue =
      .ok (.int 3) ∧
    ∀ (l : IntegerLiteral) (negative joint : Bool),
      l.tokens negative joint ≠ [.punct '#' false, .group .bracket [.ident "a"], .literal "3"] := by
  refine ⟨rfl, fun l negative joint h => ?_⟩
  cases negative with
  | true => cases h
  | false => cases h

end ScreenRoutes
