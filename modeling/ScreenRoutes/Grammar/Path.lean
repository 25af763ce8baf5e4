import ScreenRoutes.Grammar.Attribute

/-!
# Paths

A path has segments with `::` between them. A segment may have generic arguments between angle
brackets, which within an expression must follow a `::`, or the last one arguments and a result as
a function has them. A qualified path starts with a type between angle brackets.
-/

namespace ScreenRoutes

open Reading Tokens

/-- What stands between the segments of a path. -/
def segmentMark : Tokens :=
  TokenTree.mark "::"

inductive SegmentArguments where
  | none
  | angled (turbofish : Bool) (items : List AngledItem)
  | called (tokens : Tokens)

namespace SegmentArguments

def tokens : SegmentArguments → Tokens
  | .none => []
  | .angled turbofish items => (if turbofish then segmentMark else []) ++ angledTokens items
  | .called ts => ts

/-- Whether there are no arguments, though there may be brackets for some. -/
def isEmpty : SegmentArguments → Bool
  | .none => true
  | .angled _ items => items.isEmpty
  | .called _ => false

end SegmentArguments

structure PathSegment where
  name : String
  arguments : SegmentArguments

def PathSegment.tokens (s : PathSegment) : Tokens :=
  .ident s.name :: s.arguments.tokens

/-- A path: the type that qualifies it, if there is one, whether `::` follows, the segments in front
of the last one, and the last one. -/
structure Path where
  qualifier : Tokens
  rooted : Bool
  front : List PathSegment
  last : PathSegment

namespace Path

/-- The path's trees. -/
def tokens (p : Path) : Tokens :=
  p.qualifier ++ (if p.rooted then segmentMark else []) ++
    p.front.flatMap (fun s => s.tokens ++ segmentMark) ++ p.last.tokens

/-- Whether no segment has arguments. -/
def isPlain (p : Path) : Bool :=
  (p.last :: p.front).all fun s =>
    match s.arguments with
    | .none => true
    | _ => false

def isQualified (p : Path) : Bool :=
  !p.qualifier.isEmpty

/-- Whether the path is one word, with or without generic arguments. -/
def isWord (p : Path) : Bool :=
  !p.rooted && p.front.isEmpty &&
    match p.last.arguments with
    | .called _ => false
    | _ => true

/-- The type inside, if the path ends in `Option` with exactly one type between angle brackets. -/
def optional? (p : Path) : Option Tokens :=
  match p.last.name, p.last.arguments with
  | "Option", .angled _ [⟨.type, inner, _⟩] => some inner
  | _, _ => none

end Path

namespace Grammar

/-! ## Generic arguments -/

/-- Whether the trees start with a literal or a group between braces. -/
def startsConstant (ts : Tokens) : Bool :=
  startsLiteral ts || startsGroup .brace ts

/-- A constant: a literal, a name, or statements between braces. -/
def constant (g : Grammar) : Reading Tokens := do
  let ts ← rest
  if startsLiteral ts then literal
  else if startsName ts then nameTokens
  else if startsGroup .brace ts then g.attributedBlock
  else throw (.leftover none)

def angledItems (item : Reading (AngledKind × Tokens)) : Reading (List AngledItem) := do
  let _ ← mark "<"
  let items ← list "," (startsMark ">") (startsMark ">") item
  let _ ← mark ">"
  return items.map fun ((kind, ts), comma) => ⟨kind, ts, !comma.isEmpty⟩

/-- A generic argument: a lifetime, a constant, a type, or a word bound to a constant, a type or
bounds. -/
def genericArgument (g : Grammar) : Reading (AngledKind × Tokens) := do
  let ts ← rest
  if startsLifetime ts && !startsMark "+" (second ts) then return (.lifetime, ← lifetime)
  else if startsConstant ts then return (.other, ← g.constant)
  else
    let type ← g.type true
    let ts ← rest
    if type.isWord && startsMark "=" ts then
      let equals ← take 1
      let value ← if ← ahead startsConstant then g.constant else g.typeTokens
      return (.other, type.tokens ++ equals ++ value)
    else if type.isWord && startsMark ":" ts then
      let colon ← take 1
      let bounds ← list "+" (startsAnyMark [",", ">"]) (!startsMark "+" ·) (g.boundTokens false true)
      return (.other, type.tokens ++ colon ++ listTokens bounds)
    else return (.type, type.tokens)

/-- Generic arguments between angle brackets, with `::` in front or without. -/
def angledArguments (g : Grammar) : Reading SegmentArguments := do
  let colons ← markIf "::"
  return .angled (!colons.isEmpty) (← angledItems g.genericArgument)

/-! ## Segments -/

/-- Words that are segments without arguments though they are reserved. -/
def bareSegments : List String :=
  ["super", "self", "crate", "try"]

/-- A segment of a path in an expression, or of one elsewhere. -/
def pathSegment (g : Grammar) (inExpression : Bool) : Reading PathSegment := do
  match ← rest with
  | .ident w :: _ =>
    if bareSegments.contains w then
      let _ ← take 1
      return ⟨w, .none⟩
    else
      let name ← if w = "Self" then do
          let _ ← take 1
          pure w
        else name
      let ts ← rest
      if !inExpression && startsMarkNot "<" ["<=", "<<="] ts ||
          startsMark "::" ts && startsMark "<" (third ts) then
        return ⟨name, ← g.angledArguments⟩
      else return ⟨name, .none⟩
  | _ => return ⟨← name, .none⟩

/-- Whether the trees go on with another segment, and not with arguments of a call. -/
def startsNextSegment (ts : Tokens) : Bool :=
  startsMark "::" ts && !startsGroup .paren (third ts)

/-- The segments of a path, each led in by `::` where there is another one. -/
def pathSegments (g : Grammar) (inExpression : Bool) (goesOn : Tokens → Bool) :
    Reading (List PathSegment × PathSegment) := do
  let first ← g.pathSegment inExpression
  let more ← repeatWhile goesOn do
    let _ ← take 2
    g.pathSegment inExpression
  match more.getLast? with
  | none => return ([], first)
  | some last => return (first :: more.dropLast, last)

/-- A path that is not qualified. -/
def path (g : Grammar) (inExpression : Bool) : Reading Path := do
  let root ← markIf "::"
  let (front, last) ← g.pathSegments inExpression startsNextSegment
  return ⟨[], !root.isEmpty, front, last⟩

/-- The type between angle brackets that qualifies a path. -/
def qualifier (g : Grammar) : Reading Tokens :=
  inOrder [mark "<", g.typeTokens,
    optionally (startsWord "as") (inOrder [take 1, do return (← g.path false).tokens]),
    mark ">"]

def qualifiedPath (g : Grammar) (inExpression : Bool) : Reading Path := do
  if ← ahead (startsMark "<") then
    let qualifier ← g.qualifier
    let _ ← mark "::"
    let (front, last) ← g.pathSegments inExpression (startsMark "::")
    return ⟨qualifier, true, front, last⟩
  else g.path inExpression

/-! ## Paths that are called -/

/-- What is returned, with its arrow, if there is one. -/
def output (g : Grammar) (plus : Bool) : Reading Tokens :=
  optionally (startsMark "->") (inOrder [take 2, do return (← g.type plus).tokens])

/-- The path with the arguments and the result of a function, where they follow and its last segment
has no arguments yet. -/
def called (g : Grammar) (p : Path) : Reading Path := do
  let ts ← rest
  if p.last.arguments.isEmpty &&
      (startsGroup .paren ts || startsMark "::" ts && startsGroup .paren (third ts)) then
    let _ ← markIf "::"
    let inputs ← group .paren (commaList g.typeTokens)
    let result ← g.output false
    return { p with last := ⟨p.last.name, .called (inputs ++ result)⟩ }
  else return p

end Grammar

end ScreenRoutes
