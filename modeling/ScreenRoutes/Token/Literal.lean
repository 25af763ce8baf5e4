import ScreenRoutes.Text.CodePoints
import ScreenRoutes.Text.Hex
import ScreenRoutes.Text.IdentifierChar

/-!
# Literals

String literals with escapes are read by an automaton, one character at a time, which yields their
value and the text behind the closing quote. Raw strings end at a quote with as many `#` as they
began with. Integer literals have a base, digits with underscores among them, and a suffix.
-/

namespace ScreenRoutes

open Text

/-- Strings of text, of bytes, and of bytes that end with NUL. -/
inductive StringKind where
  | text
  | bytes
  | terminated
  deriving DecidableEq, Repr

/-- Where the reader of a string with escapes stands. -/
inductive EscapeState where
  | plain
  | afterReturn
  | escape
  | hexFirst
  | hexSecond (first : Nat)
  | codeOpen
  | codeDigits (value count : Nat)
  | skip
  | skipReturn

/-- The character that a one-letter escape stands for. -/
def simpleEscape? (kind : StringKind) (c : Char) : Option Char :=
  match c with
  | 'n' => some '\n'
  | 'r' => some '\r'
  | 't' => some '\t'
  | '\\' => some '\\'
  | '\'' => some '\''
  | '"' => some '"'
  | '0' => if kind = .terminated then none else some '\x00'
  | _ => none

/-- Whether a character may stand in a string as itself. -/
def mayStand (kind : StringKind) (c : Char) : Bool :=
  match kind with
  | .text => true
  | .bytes => c.toNat < 0x80
  | .terminated => c != '\x00'

/-- The character of a two-digit escape. -/
def hexEscape? (kind : StringKind) (first second : Nat) : Option Char :=
  let n := 16 * first + second
  match kind with
  | .text => if first < 8 then some (Char.ofNat n) else none
  | .bytes => some (Char.ofNat n)
  | .terminated => if n = 0 then none else some (Char.ofNat n)

def codeEscape? (kind : StringKind) (n : Nat) : Option Char :=
  match kind with
  | .text => codePoint? n
  | .bytes => none
  | .terminated => if n = 0 then none else codePoint? n

/-- The value of the string up to its closing quote, and the text behind the quote. -/
def cooked (kind : StringKind) : EscapeState → List Char → Option (List Char × List Char)
  | _, [] => none
  | .afterReturn, c :: cs => if c = '\n' then yields '\n' (cooked kind .plain cs) else none
  | .escape, c :: cs =>
    match simpleEscape? kind c with
    | some x => yields x (cooked kind .plain cs)
    | none =>
      match c with
      | 'x' => cooked kind .hexFirst cs
      | 'u' => if kind = .bytes then none else cooked kind .codeOpen cs
      | '\n' => cooked kind .skip cs
      | '\r' => cooked kind .skipReturn cs
      | _ => none
  | .hexFirst, c :: cs => (hexValue? c).bind fun a => cooked kind (.hexSecond a) cs
  | .hexSecond a, c :: cs =>
    (hexValue? c).bind fun b =>
      (hexEscape? kind a b).bind fun x => yields x (cooked kind .plain cs)
  | .codeOpen, c :: cs => if c = '\x7b' then cooked kind (.codeDigits 0 0) cs else none
  | .codeDigits value count, c :: cs =>
    if c = '_' then if 0 < count then cooked kind (.codeDigits value count) cs else none
    else if c = '\x7d' then
      if 0 < count then
        (codeEscape? kind value).bind fun x => yields x (cooked kind .plain cs)
      else none
    else
      match hexValue? c with
      | some d => if count < 6 then cooked kind (.codeDigits (16 * value + d) (count + 1)) cs else none
      | none => none
  | .skipReturn, c :: cs => if c = '\n' then cooked kind .skip cs else none
  | .skip, c :: cs =>
    match c with
    | ' ' | '\t' | '\n' => cooked kind .skip cs
    | '\r' => cooked kind .skipReturn cs
    | '"' => some ([], cs)
    | '\\' => cooked kind .escape cs
    | c => if mayStand kind c then yields c (cooked kind .plain cs) else none
  | .plain, c :: cs =>
    match c with
    | '"' => some ([], cs)
    | '\r' => cooked kind .afterReturn cs
    | '\\' => cooked kind .escape cs
    | c => if mayStand kind c then yields c (cooked kind .plain cs) else none
where
  /-- The result with one more character in front of its value. -/
  yields (c : Char) (result : Option (List Char × List Char)) : Option (List Char × List Char) :=
    result.map fun (value, rest) => (c :: value, rest)

/-- The value of a raw string up to a quote with the given `#` behind it, and the text behind. -/
def rawBody (kind : StringKind) (hashes : List Char) : List Char → Option (List Char × List Char)
  | [] => none
  | c :: cs =>
    let closed : Option (List Char) := if c = '"' then stripped hashes cs else none
    match closed with
    | some rest => some ([], rest)
    | none =>
      if c = '\r' && cs.head? != some '\n' then none
      else if !mayStand kind c then none
      else (rawBody kind hashes cs).map fun (value, rest) => (c :: value, rest)
where
  /-- The text behind the given characters. -/
  stripped : List Char → List Char → Option (List Char)
    | [], cs => some cs
    | _ :: _, [] => none
    | h :: hs, c :: cs => if h = c then stripped hs cs else none

/-- The value of a raw string from its `#` or quote on, and the text behind it. -/
def rawString (kind : StringKind) (cs : List Char) : Option (List Char × List Char) :=
  let hashes := cs.takeWhile (· == '#')
  match cs.drop hashes.length with
  | '"' :: body => if hashes.length ≤ 255 then rawBody kind hashes body else none
  | _ => none

/-- The value of a string of text, and the text behind its closing quote. -/
def textString : List Char → Option (List Char × List Char)
  | '"' :: cs => cooked .text .plain cs
  | 'r' :: cs => rawString .text cs
  | _ => none

def stringValue? (literal : String) : Option String :=
  (textString literal.toList).map fun (value, _) => String.ofList value

/-! ## Integers -/

/-- The base of an integer literal and the text behind its mark. -/
def integerBase : List Char → Nat × List Char
  | '0' :: 'x' :: cs => (16, cs)
  | '0' :: 'o' :: cs => (8, cs)
  | '0' :: 'b' :: cs => (2, cs)
  | cs => (10, cs)

/-- The value of a digit, if it is one to look at in the base: letters count only where the base
goes beyond ten. -/
def digitOf? (base : Nat) (c : Char) : Option Nat :=
  if c.isDigit then hexValue? c else if 10 < base then hexValue? c else none

/-- Whether the text goes on as the exponent of a decimal fraction: digits after an `e`, with no
further letter that would make the whole a suffix of its own. -/
def isExponent (cs : List Char) : Bool :=
  let body := cs.takeWhile fun c => c.isDigit || c == '_'
  let rest := cs.drop body.length
  match rest with
  | '-' :: _ | '+' :: _ => true
  | _ => body.any Char.isDigit && (rest.isEmpty || isIdentifier rest)

/-- The value of the digits of an integer literal and its suffix, `seen` telling whether there was a
digit before. None where the literal is no integer. -/
def integerDigits? (base : Nat) (value : Nat) (seen : Bool) :
    List Char → Option (Nat × List Char)
  | [] => if seen then some (value, []) else none
  | c :: cs =>
    if c = '_' then integerDigits? base value seen cs
    else
      match digitOf? base c with
      | some d => if d < base then integerDigits? base (base * value + d) true cs else none
      | none =>
        if base = 10 ∧ c = '.' then none
        else if base = 10 ∧ (c = 'e' ∨ c = 'E') ∧ isExponent cs then none
        else if seen && isIdentifier (c :: cs) then some (value, c :: cs)
        else none

/-- The value and the suffix of a literal that is an integer. -/
def integerParts? (literal : String) : Option (Nat × List Char) :=
  match literal.toList with
  | [] => none
  | c :: cs =>
    if c.isDigit then
      let (base, digits) := integerBase (c :: cs)
      integerDigits? base 0 false digits
    else none

/-- The value of a literal that is an integer, whatever its suffix. -/
def integerValue? (literal : String) : Option Nat :=
  (integerParts? literal).map (·.1)

/-- Whether a literal is a number with a point or an exponent. -/
def isFraction (literal : String) : Bool :=
  literal.toList.head?.any Char.isDigit && (integerParts? literal).isNone

end ScreenRoutes
