import ScreenRoutes.Manifest.Item
import ScreenRoutes.Manifest.Numbers
import ScreenRoutes.Manifest.Strings
import ScreenRoutes.Text.Cut

/-!
# Reading documents

A document is read line by line into items and headers, and these are put together afterwards. Keys
have fewer than eighty parts, and values are nested less than eighty deep. This is `toml::from_str`
up to the types of the fields.
-/

namespace ScreenRoutes.Toml

open Text

/-! ## Blanks and comments -/

/-- The text behind the blanks that it starts with. -/
def skipBlanks (cs : List Char) : List Char :=
  cs.dropWhile fun c => c == ' ' || c == '\t'

/-- The text behind a comment and the end of its line. -/
def afterComment? : List Char → Option (List Char)
  | [] => some []
  | c :: cs =>
    if c = '\n' then some cs
    else if c = '\r' && cs.head? = some '\n' then some (cs.drop 1)
    else if isTextChar c then afterComment? cs
    else none

/-- The text behind the rest of a line on which nothing but a comment remains. -/
def afterLine? (cs : List Char) : Option (List Char) :=
  match skipBlanks cs with
  | [] => some []
  | '\n' :: rest => some rest
  | '\r' :: '\n' :: rest => some rest
  | '#' :: rest => afterComment? rest
  | _ => none

/-- The text behind blanks, line ends and comments. -/
def skipLines (comment : Bool) : List Char → Option (List Char)
  | [] => some []
  | c :: cs =>
    if c = '\n' then skipLines false cs
    else if c = '\r' && cs.head? = some '\n' then skipLines comment cs
    else if comment then if isTextChar c then skipLines true cs else none
    else if c = ' ' ∨ c = '\t' then skipLines false cs
    else if c = '#' then skipLines true cs
    else some (c :: cs)

/-! ## Keys -/

/-- Whether a character may stand in a key without quotes. -/
def isKeyChar (c : Char) : Bool :=
  c.isAlphanum || c == '_' || c == '-'

/-- One part of a key, and the text behind it. -/
def readKeyPart (cs : List Char) : Option (String × List Char) :=
  match cs with
  | [] => none
  | c :: _ =>
    if c = '"' ∨ c = '\'' then (readLineString cs).map fun (key, rest) => (String.ofList key, rest)
    else
      let key := cs.takeWhile isKeyChar
      if key.isEmpty then none else some (String.ofList key, cs.drop key.length)

/-- A key, `parts` being the number of parts it may have, and the text behind the blanks behind
it. -/
def readKey (parts : Nat) (cs : List Char) : Option (List String × List Char) :=
  match parts with
  | 0 => none
  | parts + 1 => do
    let (part, rest) ← readKeyPart (skipBlanks cs)
    match skipBlanks rest with
    | '.' :: rest => do
      let (key, rest) ← readKey parts rest
      pure (part :: key, rest)
    | rest => pure ([part], rest)

/-- The number of parts that a key may have, and of levels that a value may have. -/
def depthLimit : Nat :=
  79

/-! ## Values -/

abbrev ItemReader := List Char → Option (Item × List Char)

/-- A key with its last part apart, the item assigned to it, and the text behind. -/
def readAssignment (item : ItemReader) (cs : List Char) :
    Option ((List String × String × Item) × List Char) := do
  let (key, rest) ← readKey depthLimit cs
  let last ← key.getLast?
  let (value, rest) ← item (skipBlanks (← behind? '=' rest))
  pure ((key.dropLast, last, value), rest)

/-- The items up to the closing bracket, and the text behind it. -/
def readArray (item : ItemReader) (fuel : Nat) (cs : List Char) :
    Option (List Item × List Char) :=
  match fuel with
  | 0 => none
  | fuel + 1 => do
    match ← skipLines false cs with
    | ']' :: rest => pure ([], rest)
    | cs =>
      let (first, rest) ← item cs
      match ← skipLines false rest with
      | ',' :: rest =>
        let (items, rest) ← readArray item fuel rest
        pure (first :: items, rest)
      | ']' :: rest => pure ([first], rest)
      | _ => none

/-- The assignments up to the closing brace, of which there is at least one, and the text behind
it. -/
def readPairs (item : ItemReader) (fuel : Nat) (cs : List Char) :
    Option (Assignments × List Char) :=
  match fuel with
  | 0 => none
  | fuel + 1 => do
    let (first, rest) ← readAssignment item cs
    match skipBlanks rest with
    | ',' :: rest =>
      let (pairs, rest) ← readPairs item fuel rest
      pure (first :: pairs, rest)
    | '\x7d' :: rest => pure ([first], rest)
    | _ => none

/-- A value that is no array and no table, and the text behind it. -/
def readScalar (cs : List Char) : Option (Item × List Char) :=
  match cs with
  | [] => none
  | c :: _ =>
    if c = '"' ∨ c = '\'' then
      (readString cs).map fun (s, rest) => (.string (String.ofList s), rest)
    else if c = 't' then (after? "true".toList cs).map fun rest => (.boolean true, rest)
    else if c = 'f' then (after? "false".toList cs).map fun rest => (.boolean false, rest)
    else
      (afterMoment? cs).map (fun rest => (.date, rest)) <|>
        (afterFraction? cs).map (fun rest => (.float, rest)) <|>
        (afterSpecial? cs).map (fun rest => (.float, rest)) <|>
        (integer? cs).map fun (n, rest) => (.integer n, rest)

/-- A value with at most `depth` levels, and the text behind it. -/
def readItem (depth : Nat) : ItemReader :=
  match depth with
  | 0 => readScalar
  | depth + 1 => fun
    | '[' :: cs => (readArray (readItem depth) (cs.length + 1) cs).map fun (items, rest) =>
        (.array items, rest)
    | '\x7b' :: cs =>
      match skipBlanks cs with
      | '\x7d' :: rest => some (.table .inline [], rest)
      | _ => do
        let (pairs, rest) ← readPairs (readItem depth) (cs.length + 1) cs
        let entries ← assignAll pairs []
        pure (.table .inline entries, rest)
    | cs => readScalar cs

/-! ## Documents -/

/-- A header at the start of the text, and the text behind it. -/
def readHeader : List Char → Option (Header × List Char)
  | '[' :: '[' :: cs => do
    let (path, rest) ← readKey depthLimit cs
    pure (.tables path, ← behind? ']' (← behind? ']' rest))
  | '[' :: cs => do
    let (path, rest) ← readKey depthLimit cs
    pure (.table path, ← behind? ']' rest)
  | _ => none

def Document.withFront (a : List String × String × Item) (d : Document) : Document :=
  { d with front := a :: d.front }

/-- The document whose front comes below a header. -/
def Document.under (header : Header) (d : Document) : Document :=
  ⟨[], (header, d.front) :: d.sections⟩

/-- The document that the text spells. -/
def readLines (fuel : Nat) (cs : List Char) : Option Document :=
  match fuel with
  | 0 => none
  | fuel + 1 =>
    match skipBlanks cs with
    | [] => some ⟨[], []⟩
    | '#' :: rest => do readLines fuel (← afterComment? rest)
    | '\n' :: rest => readLines fuel rest
    | '\r' :: '\n' :: rest => readLines fuel rest
    | '[' :: rest => do
      let (header, rest) ← readHeader ('[' :: rest)
      let d ← readLines fuel (← afterLine? rest)
      pure (d.under header)
    | rest => do
      let (assignment, rest) ← readAssignment (readItem depthLimit) rest
      let d ← readLines fuel (← afterLine? rest)
      pure (d.withFront assignment)

/-- What the text of a document holds; a byte order mark in front does not count. -/
def read? (text : String) : Option Entries := do
  let cs := (after? ['\ufeff'] text.toList).getD text.toList
  (← readLines (cs.length + 1) cs).entries

end ScreenRoutes.Toml
