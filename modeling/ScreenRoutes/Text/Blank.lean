/-!
# Blanks

The Unicode property White_Space, and texts with the blanks at their ends removed.
-/

namespace ScreenRoutes.Text

/-- Whether `c` has the property White_Space. -/
def isBlank (c : Char) : Bool :=
  let n := c.toNat
  (0x9 ≤ n && n ≤ 0xD) || n == 0x20 || n == 0x85 || n == 0xA0 || n == 0x1680 ||
    (0x2000 ≤ n && n ≤ 0x200A) || n == 0x2028 || n == 0x2029 || n == 0x202F || n == 0x205F ||
    n == 0x3000

/-- The text without the blanks at its start. -/
def trimStart (cs : List Char) : List Char :=
  cs.dropWhile isBlank

/-- The text without the blanks at its end. -/
def trimEnd : List Char → List Char
  | [] => []
  | c :: cs =>
    match trimEnd cs with
    | [] => if isBlank c then [] else [c]
    | rest => c :: rest

/-- The text without the blanks at its start and at its end. -/
def trim (cs : List Char) : List Char :=
  trimEnd (trimStart cs)

/-- The text without any blank. -/
def squeeze (cs : List Char) : List Char :=
  cs.filter fun c => !isBlank c

end ScreenRoutes.Text
