import ScreenRoutes.Text.Quoted

/-!
# Text on a terminal

Styles start and end with escape sequences. A text from elsewhere that is shown on a terminal has
the characters that could steer it spelled out: escape, bell, backspace, form feed, delete and the
second block of control characters.
-/

namespace ScreenRoutes.Text

/-- A text's style on a terminal. -/
inductive Style where
  | red
  | green
  | yellow
  | blue
  | purple
  | cyan
  | italic
  | dimmed
  | greenBold
  deriving DecidableEq, Repr

def Style.start : Style → List Char
  | .red => "\x1b[31m".toList
  | .green => "\x1b[32m".toList
  | .yellow => "\x1b[33m".toList
  | .blue => "\x1b[34m".toList
  | .purple => "\x1b[35m".toList
  | .cyan => "\x1b[36m".toList
  | .italic => "\x1b[3m".toList
  | .dimmed => "\x1b[2m".toList
  | .greenBold => "\x1b[1;32m".toList

def styleEnd : List Char :=
  "\x1b[0m".toList

/-- The text with the style started again wherever the text itself ends it. -/
def restartStyle (start : List Char) : List Char → List Char
  | '\x1b' :: '[' :: '0' :: 'm' :: cs => styleEnd ++ start ++ restartStyle start cs
  | c :: cs => c :: restartStyle start cs
  | [] => []

/-- The text in a style, where styles are wanted. -/
def Style.paint (style : Style) (colored : Bool) (text : String) : String :=
  if colored then
    String.ofList (style.start ++ restartStyle style.start text.toList ++ styleEnd)
  else text

/-- A character with no power over a terminal. -/
def disarmedChar (c : Char) : List Char :=
  match c with
  | '\x1b' => "\\x1b".toList
  | '\x07' => "\\x07".toList
  | '\x08' => "\\x08".toList
  | '\x0c' => "\\x0c".toList
  | '\x7f' => "\\x7f".toList
  | c => if 0x80 ≤ c.toNat ∧ c.toNat ≤ 0x9f then codePointEscape c else [c]

/-- The text with no power over a terminal. -/
def disarmed (s : String) : String :=
  String.ofList (s.toList.flatMap disarmedChar)

end ScreenRoutes.Text
