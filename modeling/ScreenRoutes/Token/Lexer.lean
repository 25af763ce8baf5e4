import ScreenRoutes.Text.Blank
import ScreenRoutes.Text.Visible
import ScreenRoutes.Token.Basic
import ScreenRoutes.Token.Literal

/-!
# Lexing

Rust source text as token trees. Blanks and comments are skipped, doc comments become attributes,
and the longest literal, else a punctuation character, else an identifier is taken. A text that
leaves something over, or whose delimiters do not pair up, has no token trees:
`TokenStream::from_str` fails.
-/

namespace ScreenRoutes

open Text

/-! ## Blanks and comments -/

/-- Whether `c` sets tokens apart: a blank, or a mark of writing direction. -/
def isTokenBlank (c : Char) : Bool :=
  isBlank c || c == '\u200e' || c == '\u200f'

/-- The rest of the line, and the text from its end on. -/
def restOfLine : List Char → List Char × List Char
  | [] => ([], [])
  | '\n' :: cs => ([], '\n' :: cs)
  | '\r' :: '\n' :: cs => ([], '\n' :: cs)
  | c :: cs =>
    let (line, rest) := restOfLine cs
    (c :: line, rest)

/-- The text of a block comment inside `depth` openings, and the text behind it. -/
def blockComment (depth : Nat) : List Char → Option (List Char × List Char)
  | '/' :: '*' :: cs =>
    (blockComment (depth + 1) cs).map fun (text, rest) => ('/' :: '*' :: text, rest)
  | '*' :: '/' :: cs =>
    if depth ≤ 1 then some ([], cs)
    else (blockComment (depth - 1) cs).map fun (text, rest) => ('*' :: '/' :: text, rest)
  | c :: cs => (blockComment depth cs).map fun (text, rest) => (c :: text, rest)
  | [] => none

/-- The text behind a comment that is no documentation, if it starts with one. -/
def afterComment? : List Char → Option (List Char)
  | '/' :: '/' :: '/' :: '/' :: cs => some (restOfLine cs).2
  | '/' :: '/' :: '/' :: _ => none
  | '/' :: '/' :: '!' :: _ => none
  | '/' :: '/' :: cs => some (restOfLine cs).2
  | '/' :: '*' :: '*' :: '/' :: cs => some cs
  | '/' :: '*' :: '*' :: '*' :: cs => (blockComment 1 ('*' :: '*' :: cs)).map (·.2)
  | '/' :: '*' :: '*' :: _ => none
  | '/' :: '*' :: '!' :: _ => none
  | '/' :: '*' :: cs => (blockComment 1 cs).map (·.2)
  | _ => none

/-- A doc comment's text, whether it documents what is around it, and the text behind it. -/
def docComment? : List Char → Option (List Char × Bool × List Char)
  | '/' :: '/' :: '!' :: cs =>
    let (line, rest) := restOfLine cs
    some (line, true, rest)
  | '/' :: '*' :: '!' :: cs => (blockComment 1 cs).map fun (text, rest) => (text, true, rest)
  | '/' :: '/' :: '/' :: '/' :: _ => none
  | '/' :: '/' :: '/' :: cs =>
    let (line, rest) := restOfLine cs
    some (line, false, rest)
  | '/' :: '*' :: '*' :: '*' :: _ => none
  | '/' :: '*' :: '*' :: cs => (blockComment 1 cs).map fun (text, rest) => (text, false, rest)
  | _ => none

/-- Whether every carriage return stands before a line feed. -/
def returnsPaired : List Char → Bool
  | [] => true
  | '\r' :: cs => cs.head? == some '\n' && returnsPaired cs
  | _ :: cs => returnsPaired cs

/-! ## Leaves -/

/-- An identifier that is not raw, and the text behind it. -/
def word? : List Char → Option (List Char × List Char)
  | [] => none
  | c :: cs =>
    if isIdentifierStart c then some (c :: cs.takeWhile isIdentifierRest, cs.dropWhile isIdentifierRest)
    else none

/-- The text behind a literal's suffix, if it has one. -/
def afterSuffix (cs : List Char) : List Char :=
  match word? cs with
  | some (_, rest) => rest
  | none => cs

/-- The text, if a word does not go on there. -/
def wordBreak? (cs : List Char) : Option (List Char) :=
  match cs with
  | c :: _ => if isIdentifierRest c then none else some cs
  | [] => some []

def afterString? : List Char → Option (List Char)
  | '"' :: cs => behind (cooked .text .plain cs)
  | 'r' :: cs => behind (rawString .text cs)
  | 'b' :: '"' :: cs => behind (cooked .bytes .plain cs)
  | 'b' :: 'r' :: cs => behind (rawString .bytes cs)
  | 'c' :: '"' :: cs => behind (cooked .terminated .plain cs)
  | 'c' :: 'r' :: cs => behind (rawString .terminated cs)
  | _ => none
where
  /-- The text behind the suffix of what was read. -/
  behind (result : Option (List Char × List Char)) : Option (List Char) :=
    result.map fun (_, rest) => afterSuffix rest

/-- The text behind the digits of an escape by code point, from its brace on. -/
def afterCodePoint? (value count : Nat) : List Char → Option (List Char)
  | [] => none
  | c :: cs =>
    if c = '_' then if 0 < count then afterCodePoint? value count cs else none
    else if c = '\x7d' then if 0 < count then (codePoint? value).map fun _ => cs else none
    else
      match hexValue? c with
      | some d => if count < 6 then afterCodePoint? (16 * value + d) (count + 1) cs else none
      | none => none

/-- The text behind the escape after a backslash in a character constant. -/
def afterCharEscape? (bytes : Bool) : List Char → Option (List Char)
  | 'x' :: a :: b :: cs =>
    match hexValue? a, hexValue? b with
    | some x, some _ => if bytes || x < 8 then some cs else none
    | _, _ => none
  | 'u' :: '\x7b' :: cs => if bytes then none else afterCodePoint? 0 0 cs
  | c :: cs => if ['n', 'r', 't', '\\', '0', '\'', '"'].contains c then some cs else none
  | [] => none

/-- The text behind a character constant, from behind its first quote on. -/
def afterChar? (bytes : Bool) (cs : List Char) : Option (List Char) :=
  let body :=
    match cs with
    | '\\' :: cs => afterCharEscape? bytes cs
    | c :: cs => if bytes && 0x80 ≤ c.toNat then none else some cs
    | [] => none
  match body with
  | some ('\'' :: rest) => some (afterSuffix rest)
  | _ => none

/-- The text behind an exponent, from behind its `e` on; `before` is the text from the `e` on, at
which the number ends if no digit follows, provided that it has a point. -/
def afterExponent? (before : Option (List Char)) (sign digit : Bool) :
    List Char → Option (List Char)
  | c :: cs =>
    if c = '+' ∨ c = '-' then
      if digit then some (c :: cs) else if sign then before else afterExponent? before true digit cs
    else if c.isDigit then afterExponent? before sign true cs
    else if c = '_' then afterExponent? before sign digit cs
    else if digit then some (c :: cs)
    else before
  | [] => if digit then some [] else before

/-- The text behind a number with a point or an exponent, from behind its first digit on. -/
def afterFraction? (point : Bool) : List Char → Option (List Char)
  | [] => if point then some [] else none
  | c :: cs =>
    if c.isDigit || c = '_' then afterFraction? point cs
    else if c = '.' then
      if point then some (c :: cs)
      else if cs.head?.any (fun d => d == '.' || isIdentifierStart d) then none
      else afterFraction? true cs
    else if c = 'e' ∨ c = 'E' then
      afterExponent? (if point then some (c :: cs) else none) false false cs
    else if point then some (c :: cs)
    else none

/-- The text behind a number with a point or an exponent and its suffix. -/
def afterFloat? : List Char → Option (List Char)
  | c :: cs => if c.isDigit then (afterFraction? false cs).bind fun r => wordBreak? (afterSuffix r) else none
  | [] => none

/-- The text behind the digits of an integer, `none_` telling whether there was none before. -/
def afterDigits? (base : Nat) (none_ : Bool) : List Char → Option (List Char)
  | [] => if none_ then none else some []
  | c :: cs =>
    if c = '_' then
      if none_ && base == 10 then none else afterDigits? base none_ cs
    else if c.isDigit then
      if (hexValue? c).any (base ≤ ·) then none else afterDigits? base false cs
    else if (hexValue? c).any (· < base) then afterDigits? base false cs
    else if none_ then none
    else some (c :: cs)

/-- The text behind an integer and its suffix. -/
def afterInteger? (cs : List Char) : Option (List Char) :=
  let (base, digits) := integerBase cs
  (afterDigits? base true digits).bind fun rest => wordBreak? (afterSuffix rest)

def afterLiteral? (cs : List Char) : Option (List Char) :=
  let char :=
    match cs with
    | 'b' :: '\'' :: cs => afterChar? true cs
    | '\'' :: cs => afterChar? false cs
    | _ => none
  afterString? cs <|> char <|> afterFloat? cs <|> afterInteger? cs

def punctuation : List Char :=
  "~!@#$%^&*-=+|;:,<.>/?'".toList

/-- The punctuation character that the text starts with, unless it starts a comment. -/
def punctChar? : List Char → Option (Char × List Char)
  | '/' :: '/' :: _ => none
  | '/' :: '*' :: _ => none
  | c :: cs => if punctuation.contains c then some (c, cs) else none
  | [] => none

/-- An identifier, raw or not, and the text behind it. -/
def anyWord? (cs : List Char) : Option (List Char × List Char) :=
  match cs with
  | 'r' :: '#' :: rest =>
    (word? rest).bind fun (name, rest) =>
      if ["_", "super", "self", "Self", "crate"].contains (String.ofList name) then none
      else some ('r' :: '#' :: name, rest)
  | _ => word? cs

/-- A punctuation character and the text behind it. A quote is one only in front of a lifetime. -/
def punct? (cs : List Char) : Option (TokenTree × List Char) :=
  match punctChar? cs with
  | none => none
  | some ('\'', rest) =>
    match anyWord? rest with
    | none => none
    | some (_, '\'' :: _) => none
    | some (_, '#' :: _) => if (after? ['r', '#'] rest).isSome then some (.punct '\'' true, rest) else none
    | some _ => some (.punct '\'' true, rest)
  | some (c, rest) => some (.punct c (punctChar? rest).isSome, rest)

/-- Beginnings of strings, which no identifier has. -/
def stringStarts : List (List Char) :=
  ["r\"", "r#\"", "r##", "b\"", "b'", "br\"", "br#", "c\"", "cr\"", "cr#"].map String.toList

/-- An identifier as a token, and the text behind it. -/
def identifier? (cs : List Char) : Option (TokenTree × List Char) :=
  if stringStarts.any fun start => (after? start cs).isSome then none
  else (anyWord? cs).map fun (name, rest) => (.ident (String.ofList name), rest)

/-- A literal as a token, and the text behind it. -/
def literal? (cs : List Char) : Option (TokenTree × List Char) :=
  (afterLiteral? cs).map fun rest =>
    (.literal (String.ofList (cs.take (cs.length - rest.length))), rest)

/-! ## Strings as tokens -/

/-- A character of a string literal; NUL is spelled at length in front of an octal digit. -/
def literalEscape (next : Option Char) (c : Char) : List Char :=
  match c with
  | '\x00' =>
    if next.any fun d => '0' ≤ d && d ≤ '7' then ['\\', 'x', '0', '0'] else ['\\', '0']
  | '"' => ['\\', '"']
  | '\\' => ['\\', '\\']
  | '\n' => ['\\', 'n']
  | '\r' => ['\\', 'r']
  | '\t' => ['\\', 't']
  | c =>
    if isVisible c then [c]
    else ['\\', 'u', '\x7b'] ++ Nat.toDigits 16 c.toNat ++ ['\x7d']

/-- The characters of a string literal between its quotes. -/
def literalBody : List Char → List Char
  | [] => []
  | c :: cs => literalEscape cs.head? c ++ literalBody cs

/-- A string literal with the given value. -/
def TokenTree.string (value : String) : TokenTree :=
  .literal (String.ofList ('"' :: literalBody value.toList ++ ['"']))

/-- The attribute that a doc comment stands for. -/
def docAttribute (text : String) (inner : Bool) : Tokens :=
  .punct '#' false :: (if inner then [.punct '!' false] else []) ++
    [.group .bracket [.ident "doc", .punct '=' false, .string text]]

/-! ## Trees -/

/-- A tree that is complete, or one end of a group. -/
inductive Lexeme where
  | trees (ts : Tokens)
  | opening (d : Delimiter)
  | closing (d : Delimiter)

/-- The delimiter that a character opens or closes. -/
def delimiter? : Char → Option Lexeme
  | '(' => some (.opening .paren)
  | '[' => some (.opening .bracket)
  | '\x7b' => some (.opening .brace)
  | ')' => some (.closing .paren)
  | ']' => some (.closing .bracket)
  | '\x7d' => some (.closing .brace)
  | _ => none

/-- The text of a literal that stands for code with errors in it. -/
def erroneous : String :=
  "(/*ERROR*/)"

/-- The literal that stands for code with errors in it, and the text behind it. -/
def erroneous? (cs : List Char) : Option (TokenTree × List Char) :=
  (after? erroneous.toList cs).map fun rest => (.literal erroneous, rest)

/-- The lexeme at the start of a text without blanks in front, and the text behind it. -/
def lexeme? (cs : List Char) : Option (Lexeme × List Char) :=
  let doc := (docComment? cs).filter fun (text, _) => returnsPaired text
  match doc, erroneous? cs with
  | some (text, inner, rest), _ => some (.trees (docAttribute (String.ofList text) inner), rest)
  | none, some (t, rest) => some (.trees [t], rest)
  | none, none =>
    match cs.head?.bind delimiter? with
    | some end_ => some (end_, cs.drop 1)
    | none =>
      (literal? cs <|> punct? cs <|> identifier? cs).map fun (t, rest) => (.trees [t], rest)

/-- The text behind the blanks and comments that it starts with. -/
def skipBlanks (cs : List Char) : List Char :=
  match cs with
  | [] => []
  | c :: rest =>
    if isTokenBlank c then skipBlanks rest
    else
      match afterComment? (c :: rest) with
      | some behind => if behind.length < (c :: rest).length then skipBlanks behind else c :: rest
      | none => c :: rest
termination_by cs.length
decreasing_by
  · exact Nat.lt_succ_self _
  · assumption

/-- The lexemes of a text; none where it is not made of lexemes. -/
def lexemes? (cs : List Char) : Option (List Lexeme) :=
  match skipBlanks cs with
  | [] => some []
  | c :: text =>
    match lexeme? (c :: text) with
    | none => none
    | some (l, rest) =>
      if rest.length < cs.length then (lexemes? rest).map (l :: ·) else none
termination_by cs.length

/-- Trees from lexemes. `current` holds the trees of the innermost open group, the latest first, and
`open_` the groups around it. -/
def groupLexemes? (open_ : List (Delimiter × Tokens)) (current : Tokens) :
    List Lexeme → Option Tokens
  | [] => if open_.isEmpty then some current.reverse else none
  | .trees ts :: ls => groupLexemes? open_ (ts.reverse ++ current) ls
  | .opening d :: ls => groupLexemes? ((d, current) :: open_) [] ls
  | .closing d :: ls =>
    match open_ with
    | (e, outer) :: open_ =>
      if d = e then groupLexemes? open_ (.group d current.reverse :: outer) ls else none
    | [] => none

/-- The token trees of a text; a byte order mark in front does not count. -/
def lex? (text : String) : Option Tokens :=
  let cs := text.toList
  let cs := (after? ['\ufeff'] cs).getD cs
  (lexemes? cs).bind (groupLexemes? [] [])

end ScreenRoutes
