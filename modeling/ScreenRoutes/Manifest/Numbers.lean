import ScreenRoutes.Text.Hex

/-!
# Numbers and dates of a manifest

Integers have an optional sign, or a base and no sign, and fit into 64 bits. Numbers with a fraction
or an exponent, dates and times are checked, but their values are not kept. Each reader gives the
text behind what it took.
-/

namespace ScreenRoutes.Toml

open Text

/-! ## Digits -/

/-- The digits at the start of the text, single underscores between them left out, and the text
behind them. -/
def digitRun (isDigit : Char → Bool) : List Char → List Char × List Char
  | [] => ([], [])
  | c :: cs =>
    if isDigit c then
      let (digits, rest) := digitRun isDigit cs
      (c :: digits, rest)
    else
      match c, cs with
      | '_', d :: ds =>
        if isDigit d then
          let (digits, rest) := digitRun isDigit ds
          (d :: digits, rest)
        else ([], c :: cs)
      | _, _ => ([], c :: cs)

/-- One or more digits, and the text behind them. -/
def digits? (isDigit : Char → Bool) (cs : List Char) : Option (List Char × List Char) :=
  if cs.head?.any isDigit then some (digitRun isDigit cs) else none

def digitsValue (base : Nat) (digits : List Char) : Nat :=
  digits.foldl (fun n c => base * n + (hexValue? c).getD 0) 0

/-- Whether a sign stands in front and is a minus sign, and the text behind the sign. -/
def splitSign : List Char → Bool × List Char
  | '-' :: cs => (true, cs)
  | '+' :: cs => (false, cs)
  | cs => (false, cs)

/-- Decimal digits without a needless zero in front, and the text behind them. -/
def decimal? : List Char → Option (List Char × List Char)
  | '0' :: cs => some (['0'], cs)
  | cs => digits? Char.isDigit cs

/-! ## Integers -/

/-- The number, if it fits into 64 bits with a sign. -/
def int64? (n : Int) : Option Int :=
  if Int64.minValue.toInt ≤ n ∧ n ≤ Int64.maxValue.toInt then some n else none

/-- An integer in a base at the start of the text, and the text behind it. -/
def basedInteger? (base : Nat) (cs : List Char) : Option (Int × List Char) := do
  let (digits, rest) ← digits? (fun c => (hexValue? c).any (· < base)) cs
  let n ← int64? (digitsValue base digits)
  pure (n, rest)

/-- An integer at the start of the text, and the text behind it. -/
def integer? (cs : List Char) : Option (Int × List Char) :=
  match cs with
  | '0' :: 'x' :: cs => basedInteger? 16 cs
  | '0' :: 'o' :: cs => basedInteger? 8 cs
  | '0' :: 'b' :: cs => basedInteger? 2 cs
  | cs => do
    let (negative, cs) := splitSign cs
    let (digits, rest) ← decimal? cs
    let magnitude : Int := digitsValue 10 digits
    let n ← int64? (if negative then -magnitude else magnitude)
    pure (n, rest)

/-! ## Fractions -/

/-- Whether `digits * 10 ^ exponent` is below the numbers that a binary fraction of 64 bits cannot
hold. -/
def isFinite (digits : List Char) (exponent : Int) : Bool :=
  let n := digitsValue 10 digits
  let width : Int := (Nat.toDigits 10 n).length
  let limit := Nat.pow 2 1024 - Nat.pow 2 970
  n == 0 || width + exponent < 309 ||
    (width + exponent == 309 &&
      if 0 ≤ exponent then decide (n * Nat.pow 10 exponent.toNat < limit)
      else decide (n < limit * Nat.pow 10 (-exponent).toNat))

/-- An exponent's value, and the text behind it. -/
def exponent? : List Char → Option (Int × List Char)
  | [] => none
  | c :: cs =>
    if c = 'e' ∨ c = 'E' then do
      let (negative, cs) := splitSign cs
      let (digits, rest) ← digits? Char.isDigit cs
      let magnitude : Int := digitsValue 10 digits
      pure (if negative then -magnitude else magnitude, rest)
    else none

/-- The text behind a number with a fraction or an exponent. Positive numbers that are too great are
refused, and negative ones are not. -/
def afterFraction? (cs : List Char) : Option (List Char) := do
  let (negative, cs) := splitSign cs
  let (whole, rest) ← decimal? cs
  let (digits, exponent, rest) ←
    match rest with
    | '.' :: cs => do
      let (fraction, rest) ← digits? Char.isDigit cs
      let shift : Int := -(fraction.length : Int)
      match rest with
      | 'e' :: _ | 'E' :: _ => do
        let (exponent, rest) ← exponent? rest
        pure (whole ++ fraction, exponent + shift, rest)
      | _ => pure (whole ++ fraction, shift, rest)
    | _ => do
      let (exponent, rest) ← exponent? rest
      pure (whole, exponent, rest)
  if negative || isFinite digits exponent then pure rest else none

/-- The text behind an infinity or what is no number. -/
def afterSpecial? (cs : List Char) : Option (List Char) :=
  match (splitSign cs).2 with
  | 'i' :: 'n' :: 'f' :: rest => some rest
  | 'n' :: 'a' :: 'n' :: rest => some rest
  | _ => none

/-! ## Dates -/

/-- A number of two digits between bounds, and the text behind it. -/
def twoDigits? (least greatest : Nat) : List Char → Option (Nat × List Char)
  | a :: b :: rest =>
    let n := digitsValue 10 [a, b]
    if a.isDigit && b.isDigit && least ≤ n && n ≤ greatest then some (n, rest) else none
  | _ => none

/-- The text behind a character that must stand in front. -/
def behind? (c : Char) : List Char → Option (List Char)
  | d :: rest => if c = d then some rest else none
  | [] => none

def daysIn (year month : Nat) : Nat :=
  if month = 2 then
    if year % 4 = 0 ∧ (year % 100 ≠ 0 ∨ year % 400 = 0) then 29 else 28
  else if [4, 6, 9, 11].contains month then 30
  else 31

def afterDate? (cs : List Char) : Option (List Char) := do
  let (century, rest) ← twoDigits? 0 99 cs
  let (yearOfCentury, rest) ← twoDigits? 0 99 rest
  let (month, rest) ← twoDigits? 1 12 (← behind? '-' rest)
  let (_, rest) ← twoDigits? 1 (daysIn (100 * century + yearOfCentury) month) (← behind? '-' rest)
  pure rest

/-- The text behind a time of day. -/
def afterTime? (cs : List Char) : Option (List Char) := do
  let (_, rest) ← twoDigits? 0 23 cs
  let (_, rest) ← twoDigits? 0 59 (← behind? ':' rest)
  let (_, rest) ← twoDigits? 0 60 (← behind? ':' rest)
  match rest with
  | '.' :: cs =>
    if cs.head?.any Char.isDigit then pure (cs.dropWhile Char.isDigit) else pure rest
  | _ => pure rest

/-- The text behind an offset from universal time. -/
def afterOffset? : List Char → Option (List Char)
  | [] => none
  | c :: cs =>
    if c = 'Z' ∨ c = 'z' then some cs
    else if c = '+' ∨ c = '-' then do
      let (_, rest) ← twoDigits? 0 23 cs
      let (_, rest) ← twoDigits? 0 59 (← behind? ':' rest)
      pure rest
    else none

/-- The text behind a date, a time, or both, with an offset or without. -/
def afterMoment? (cs : List Char) : Option (List Char) :=
  match afterDate? cs with
  | none => afterTime? cs
  | some [] => some []
  | some (c :: rest) =>
    if c = 'T' ∨ c = 't' ∨ c = ' ' then
      match afterTime? rest with
      | none => some (c :: rest)
      | some rest => some ((afterOffset? rest).getD rest)
    else some (c :: rest)

end ScreenRoutes.Toml
