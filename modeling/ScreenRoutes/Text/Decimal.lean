/-!
# Signed decimal numbers

Numbers are printed with the fewest digits and a minus sign where they are negative. They are read
with at most one sign, `+` or `-`, before one or more ASCII digits.
-/

namespace ScreenRoutes.Text

/-- The least number of 32 bits with a sign. -/
def leastInt32 : Int := -2147483648

/-- The greatest number of 32 bits with a sign. -/
def greatestInt32 : Int := 2147483647

/-- The number as a word of 32 bits, if it is in range. -/
def int32? (n : Int) : Option Int32 :=
  if leastInt32 ≤ n ∧ n ≤ greatestInt32 then some (Int32.ofInt n) else none

/-- The value of one or more ASCII digits. -/
def readDigits? (cs : List Char) : Option Nat :=
  if !cs.isEmpty && cs.all Char.isDigit then some (Nat.ofDigitChars 10 cs 0) else none

/-- The value of a decimal number with an optional sign. -/
def readInt? : List Char → Option Int
  | '-' :: cs => (readDigits? cs).map fun n => -(n : Int)
  | '+' :: cs => (readDigits? cs).map Int.ofNat
  | cs => (readDigits? cs).map Int.ofNat

/-- The decimal digits of `n`, after a minus sign if it is negative. -/
def printInt (n : Int) : List Char :=
  if n < 0 then '-' :: Nat.toDigits 10 n.natAbs else Nat.toDigits 10 n.natAbs

/-- Reads a decimal number that fits into 32 bits. -/
def readInt32? (cs : List Char) : Option Int32 :=
  (readInt? cs).bind int32?

end ScreenRoutes.Text
