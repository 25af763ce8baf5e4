import ScreenRoutes.Text.Visible

/-!
# Quoted texts

A text between double quotes, as diagnostics and logs show it: quotes and backslashes are escaped,
tab, line feed, carriage return and NUL have short escapes, and every other character that would
not show is written as its code point, `\u{1f}`.
-/

namespace ScreenRoutes.Text

/-- The lower-case hexadecimal digits of a code point between braces. -/
def codePointEscape (c : Char) : List Char :=
  ['\\', 'u', '\x7b'] ++ Nat.toDigits 16 c.toNat ++ ['\x7d']

/-- A character inside a quoted text. -/
def quotedChar (c : Char) : List Char :=
  match c with
  | '"' => ['\\', '"']
  | '\\' => ['\\', '\\']
  | '\n' => ['\\', 'n']
  | '\r' => ['\\', 'r']
  | '\t' => ['\\', 't']
  | '\x00' => ['\\', '0']
  | c => if isVisible c then [c] else codePointEscape c

/-- The text between double quotes. -/
def quoted (s : String) : String :=
  String.ofList ('"' :: s.toList.flatMap quotedChar ++ ['"'])

end ScreenRoutes.Text
