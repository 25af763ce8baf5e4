import ScreenRoutes.Text.CodePoints
import ScreenRoutes.Text.Hex

/-!
# Strings of a manifest

Strings between double quotes have escapes, those between single quotes have none. Either kind goes
over several lines between three quotes; then one or two quotes may stand inside, also just before
the end, line ends are read as line feeds, and a backslash at the end of a line takes away the blanks
up to the next text.
-/

namespace ScreenRoutes.Toml

open Text

/-- Whether a character may stand as itself in a string or comment: no control character but the
tab. -/
def isTextChar (c : Char) : Bool :=
  c == '\t' || (0x20 ≤ c.toNat && c.toNat != 0x7F)

/-- Where the reader of a string with escapes stands. -/
inductive StringState where
  | plain (skipping : Bool)
  | escape
  | lineEnd
  | code (left value : Nat)

/-- The character that a one-letter escape stands for. -/
def escapedChar? : Char → Option Char
  | 'b' => some '\x08'
  | 't' => some '\t'
  | 'n' => some '\n'
  | 'f' => some '\x0c'
  | 'r' => some '\r'
  | '"' => some '"'
  | '\\' => some '\\'
  | _ => none

/-- A string's value, and the text behind the string. -/
abbrev StringResult := Option (List Char × List Char)

/-- The result with one more character in front of its value. -/
def yields (c : Char) (result : StringResult) : StringResult :=
  result.map fun (value, rest) => (c :: value, rest)

/-- The string up to its closing quotes, and the text behind them. -/
def escapedBody (multi : Bool) : StringState → List Char → StringResult
  | _, [] => none
  | .escape, c :: cs =>
    match escapedChar? c with
    | some x => yields x (escapedBody multi (.plain false) cs)
    | none =>
      if c = 'u' then escapedBody multi (.code 4 0) cs
      else if c = 'U' then escapedBody multi (.code 8 0) cs
      else if !multi then none
      else if c = '\n' then escapedBody multi (.plain true) cs
      else if c = ' ' ∨ c = '\t' ∨ (c = '\r' ∧ cs.head? = some '\n') then
        escapedBody multi .lineEnd cs
      else none
  | .lineEnd, c :: cs =>
    if c = '\n' then escapedBody multi (.plain true) cs
    else if c = ' ' ∨ c = '\t' ∨ (c = '\r' ∧ cs.head? = some '\n') then
      escapedBody multi .lineEnd cs
    else none
  | .code left value, c :: cs =>
    match hexValue? c with
    | none => none
    | some d =>
      let value := 16 * value + d
      if left ≤ 1 then
        (codePoint? value).bind fun x => yields x (escapedBody multi (.plain false) cs)
      else escapedBody multi (.code (left - 1) value) cs
  | .plain skipping, c :: cs =>
    if c = '\\' then escapedBody multi .escape cs
    else if c = '"' then
      if !multi then some ([], cs)
      else
        match cs with
        | '"' :: '"' :: '"' :: '"' :: rest => some (['"', '"'], rest)
        | '"' :: '"' :: '"' :: rest => some (['"'], rest)
        | '"' :: '"' :: rest => some ([], rest)
        | _ => yields '"' (escapedBody multi (.plain false) cs)
    else if skipping && (c = ' ' || c = '\t' || c = '\n') then escapedBody multi (.plain true) cs
    else if multi && c = '\n' then yields '\n' (escapedBody multi (.plain false) cs)
    else if multi && c = '\r' && cs.head? = some '\n' then
      escapedBody multi (.plain skipping) cs
    else if isTextChar c then yields c (escapedBody multi (.plain false) cs)
    else none

/-- The string without escapes up to its closing quotes, and the text behind them. -/
def literalBody (multi : Bool) : List Char → StringResult
  | [] => none
  | c :: cs =>
    if c = '\'' then
      if !multi then some ([], cs)
      else
        match cs with
        | '\'' :: '\'' :: '\'' :: '\'' :: rest => some (['\'', '\''], rest)
        | '\'' :: '\'' :: '\'' :: rest => some (['\''], rest)
        | '\'' :: '\'' :: rest => some ([], rest)
        | _ => yields '\'' (literalBody multi cs)
    else if multi && c = '\n' then yields '\n' (literalBody multi cs)
    else if multi && c = '\r' && cs.head? = some '\n' then literalBody multi cs
    else if isTextChar c then yields c (literalBody multi cs)
    else none

def dropLineEnd : List Char → List Char
  | '\n' :: cs => cs
  | '\r' :: '\n' :: cs => cs
  | cs => cs

/-- A string on one line at the start of the text, and the text behind it. -/
def readLineString : List Char → StringResult
  | '"' :: cs => escapedBody false (.plain false) cs
  | '\'' :: cs => literalBody false cs
  | _ => none

/-- A string at the start of the text, and the text behind it. -/
def readString : List Char → StringResult
  | '"' :: '"' :: '"' :: cs => escapedBody true (.plain false) (dropLineEnd cs)
  | '\'' :: '\'' :: '\'' :: cs => literalBody true (dropLineEnd cs)
  | cs => readLineString cs

end ScreenRoutes.Toml
