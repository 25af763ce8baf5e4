import ScreenRoutes.Text.Cut

/-!
# Route patterns

A pattern is a path of fixed and placeholder segments, and after a `?` a query whose entries give
each key a placeholder: `detail/{lang}/{like}?ja={ja}`. `Pattern.parse` reads a pattern and
`Pattern.print` writes it back; `Pattern.fill` puts texts in place of the placeholders.

| here | there |
| --- | --- |
| `Segment.ofChars` | `classify_segment` |
| `QuerySlot.ofChars?` | `parse_query_entry` |
| `Pattern.parse` | `RoutePattern::parse` |
| `Pattern.has` | `RoutePattern::has_placeholder` |
-/

namespace ScreenRoutes

open Text

/-- A part of a pattern's path: `{name}`, or text that a route repeats. -/
inductive Segment where
  | placeholder (name : String)
  | fixed (text : String)
  deriving DecidableEq, Repr

/-- Reads a part of a path: braces around the whole of it make it a placeholder. -/
def Segment.ofChars (cs : List Char) : Segment :=
  match (after? ['\x7b'] cs).bind (before? '\x7d') with
  | some name => .placeholder (String.ofList name)
  | none => .fixed (String.ofList cs)

def Segment.print : Segment → String
  | .placeholder name => "\x7b" ++ name ++ "\x7d"
  | .fixed text => text

def Segment.name? : Segment → Option String
  | .placeholder name => some name
  | .fixed _ => none

/-- An entry of a pattern's query: `key={placeholder}`. -/
structure QuerySlot where
  key : String
  placeholder : String
  deriving DecidableEq, Repr

/-- Reads an entry: a key that is not empty, before the first `=`, and a placeholder. -/
def QuerySlot.ofChars? (cs : List Char) : Option QuerySlot :=
  match cut '=' cs with
  | (key, some value) =>
    match Segment.ofChars value with
    | .placeholder name => if key.isEmpty then none else some ⟨String.ofList key, name⟩
    | .fixed _ => none
  | (_, none) => none

/-- The entry as a pattern shows it. -/
def QuerySlot.print (s : QuerySlot) : String :=
  s.key ++ "=" ++ "\x7b" ++ s.placeholder ++ "\x7d"

/-- A pattern with its text and its parts. -/
structure Pattern where
  text : String
  segments : List Segment
  query : List QuerySlot
  deriving DecidableEq, Repr

inductive PatternFault where
  | emptyPattern
  | malformedEntry
  | unnamedPlaceholder
  | repeatedPlaceholder
  | strayBrace
  deriving DecidableEq, Repr

def PatternFault.reason : PatternFault → String
  | .emptyPattern => "pattern is empty"
  | .malformedEntry => "query entries must be `key=\x7bname\x7d`"
  | .unnamedPlaceholder => "placeholder names must be non-empty"
  | .repeatedPlaceholder => "placeholder used more than once"
  | .strayBrace => "braces must wrap a whole path segment"

def isBrace (c : Char) : Bool :=
  c == '\x7b' || c == '\x7d'

/-- What is wrong with the first name that is not fit for a placeholder: one that is empty or holds
a brace, or one that is among those `seen` before it. -/
def nameFault? : (seen names : List String) → Option PatternFault
  | _, [] => none
  | seen, name :: names =>
    if name.isEmpty || name.toList.any isBrace then some .unnamedPlaceholder
    else if name ∈ seen then some .repeatedPlaceholder
    else nameFault? (name :: seen) names

/-- Whether a segment is fixed text that holds a brace. -/
def Segment.isStray : Segment → Bool
  | .placeholder _ => false
  | .fixed text => text.toList.any isBrace

namespace Pattern

/-- The names of the placeholders, those of the path first. -/
def names (p : Pattern) : List String :=
  p.segments.filterMap Segment.name? ++ p.query.map (·.placeholder)

/-- The entries of the text after the first `?`, if there is one. -/
def slots? : Option (List Char) → Option (List QuerySlot)
  | none => some []
  | some query => (query.splitOn '&').mapM QuerySlot.ofChars?

/-- Reads a pattern. Faults of entries come before faults of names, and those before stray
braces. -/
def parse (text : String) : Except PatternFault Pattern :=
  if text.isEmpty then .error .emptyPattern
  else
    let (path, query) := cut '?' text.toList
    match slots? query with
    | none => .error .malformedEntry
    | some slots =>
      let p : Pattern := ⟨text, (path.splitOn '/').map Segment.ofChars, slots⟩
      match nameFault? [] p.names with
      | some fault => .error fault
      | none => if p.segments.any Segment.isStray then .error .strayBrace else .ok p

def joined (sep : String) (texts : List String) : String :=
  concat (texts.intersperse sep)

def print (p : Pattern) : String :=
  joined "/" (p.segments.map Segment.print) ++
    if p.query.isEmpty then "" else "?" ++ joined "&" (p.query.map QuerySlot.print)

/-- The route that has `v`'s texts in place of the placeholders. -/
def fill (p : Pattern) (v : String → String) : String :=
  let segment : Segment → String
    | .placeholder name => v name
    | .fixed text => text
  joined "/" (p.segments.map segment) ++
    if p.query.isEmpty then ""
    else "?" ++ joined "&" (p.query.map fun s => s.key ++ "=" ++ v s.placeholder)

def has (p : Pattern) (name : String) : Bool :=
  p.segments.any (·.name? == some name) || p.query.any (·.placeholder == name)

end Pattern

end ScreenRoutes
