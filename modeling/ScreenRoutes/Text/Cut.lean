/-!
# Cutting texts apart

A text is cut once, at the first or last place where a character stands, or split at every such
place (`List.splitOn`).
-/

namespace ScreenRoutes.Text

/-- The text before the first `c`, and the text after it if `c` occurs. -/
def cut (c : Char) (cs : List Char) : List Char × Option (List Char) :=
  (cs.takeWhile (· != c), (cs.dropWhile (· != c)).tail?)

/-- The texts before and after the last `c`, if `c` occurs. -/
def cutLast? (c : Char) : List Char → Option (List Char × List Char)
  | [] => none
  | x :: xs =>
    match cutLast? c xs with
    | some (before, after) => some (x :: before, after)
    | none => if x == c then some ([], xs) else none

/-- The text after `front`, if it starts so. -/
def after? : (front cs : List Char) → Option (List Char)
  | [], cs => some cs
  | _ :: _, [] => none
  | f :: fs, c :: cs => if f == c then after? fs cs else none

/-- The text before its last character, if that is `c`. -/
def before? (c : Char) : List Char → Option (List Char)
  | [] => none
  | [x] => if x == c then some [] else none
  | x :: xs => (before? c xs).map (x :: ·)

/-- The texts one after the other. -/
def concat (texts : List String) : String :=
  String.ofList (texts.flatMap String.toList)

end ScreenRoutes.Text
