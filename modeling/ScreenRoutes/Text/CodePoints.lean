/-!
# Sets of code points

A property of characters is stored as the ascending code points at which it turns on or off.
-/

namespace ScreenRoutes.Text

/-- Whether `c` lies in the set that starts outside and changes sides at each of `bounds`. -/
def inBounds (bounds : List Nat) (c : Char) : Bool :=
  bounds.countP (· ≤ c.toNat) % 2 == 1

def codePoint? (n : Nat) : Option Char :=
  if n < 0xD800 ∨ (0xDFFF < n ∧ n < 0x110000) then some (Char.ofNat n) else none

end ScreenRoutes.Text
