import ScreenRoutes.Grammar.Generics

/-!
# Types

Paths, references, pointers, tuples, arrays and slices, pointers to functions, calls of what stands
for code, and bounds of a type that is left open.
-/

namespace ScreenRoutes

open Reading Tokens

namespace Grammar

def typeStarts : List String :=
  ["`for`", "parentheses", "`fn`", "`unsafe`", "`extern`", "identifier", "`::`", "`<`", "`dyn`",
    "square brackets", "`*`", "`&`", "`!`", "`impl`", "`_`", "lifetime"]

/-- What a type may go on with behind the lifetimes that hold for it. -/
def boundTypeStarts : List String :=
  ["identifier", "`fn`", "`unsafe`", "`extern`", "`super`", "`self`", "`Self`", "`crate`"]

def plainType (ts : Tokens) : TypeText :=
  ⟨ts, .other⟩

/-! ## Calls of what stands for code -/

/-- Whether a `!` comes next that a group may follow. -/
def startsBang (ts : Tokens) : Bool :=
  startsMarkNot "!" ["!="] ts

/-- The `!` and the group behind a plain path; the group stays as it stands. -/
def invocation : Reading Tokens :=
  inOrder [mark "!", anyGroup]

/-! ## Bounds as types -/

/-- A type made of a first bound, outside any parentheses and in them, and the bounds behind it. -/
def boundsType (bare written : Tokens) (more : Tokens) : TypeText :=
  ⟨written ++ more, if more.isEmpty then .bound bare else .other⟩

/-- Further bounds, each with a `+` in front. -/
def addedBounds (g : Grammar) : Reading Tokens := do
  let more ← repeatWhile (startsMark "+") (inOrder [take 1, g.boundTokens false false])
  return more.flatten

/-- Bounds of which at least one must be a trait. -/
def objectBounds (g : Grammar) (plus : Bool) : Reading (List (Bound × Tokens)) := do
  let bounds ← g.bounds plus false false
  if bounds.any (·.1.kind = .trait) then return bounds else throw .onlyLifetimes

/-- A type behind `dyn`; it stays as it stands where a `*` follows. -/
def dynType (g : Grammar) (plus : Bool) : Reading TypeText := do
  let ts ← orAsWritten do
    let start ← word "dyn"
    let star ← markIf "*"
    let bounds ← g.objectBounds plus
    return if star.isEmpty then some (start ++ boundsTokens bounds) else none
  return plainType ts

def implType (g : Grammar) (plus : Bool) : Reading TypeText := do
  let start ← word "impl"
  let bounds ← g.bounds plus true true
  if bounds.any (·.1.kind = .trait) then return plainType (start ++ boundsTokens bounds)
  else throw .noTrait

/-- A type made of bounds of which the first one is a lifetime. -/
def lifetimeType (g : Grammar) (plus : Bool) : Reading TypeText := do
  return plainType (boundsTokens (← g.objectBounds plus))

/-! ## Types between parentheses -/

/-- What parentheses hold: nothing or types with commas behind them, a type, or a bound that is
relaxed by `?`. -/
inductive Parenthesized where
  | tuple (inside : Tokens)
  | single (inside : TypeText)
  | lifetimes (inside : Tokens)
  | relaxed (inside : Tokens)

def parenthesized (g : Grammar) : Reading Parenthesized := do
  let ts ← rest
  if ts.isEmpty then return .tuple []
  else if startsLifetime ts then return .lifetimes (← g.lifetimeType true).tokens
  else if startsMark "?" ts then return .relaxed (← g.traitBound false).2
  else
    let first ← g.type true
    if ← ahead (startsMark ",") then
      return .tuple (first.tokens ++ (← take 1) ++ (← commaList g.typeTokens))
    else return .single first

def parenType (g : Grammar) (plus : Bool) : Reading TypeText := do
  let enclosed (ts : Tokens) : Tokens := [.group .paren ts]
  match ← inside .paren g.parenthesized with
  | .tuple ts | .lifetimes ts => return plainType (enclosed ts)
  | .relaxed bare => return boundsType bare (enclosed bare) (← g.addedBounds)
  | .single first =>
    match first.bare? with
    | some bare =>
      if plus && (← ahead (startsMark "+")) then
        return boundsType bare (enclosed bare) (← g.addedBounds)
      else return plainType (enclosed first.tokens)
    | none => return plainType (enclosed first.tokens)

/-! ## Pointers to functions -/

def convention : Reading Tokens :=
  optionally (startsWord "extern") (inOrder [take 1, optionally startsString (take 1)])

/-- A parameter of a pointer to a function, with a name or without. The first one may be called
`self`; it stays as it stands where `mut` comes before. -/
def pointerParam (g : Grammar) (isFirst : Bool) : Reading Tokens := do
  let ts ← rest
  if isFirst && startsWord "mut" ts && startsWord "self" (second ts) then
    asWritten (inOrder [take 2, optionally startsColon (inOrder [take 1, g.typeTokens])])
  else if (startsName ts || startsWord "_" ts || isFirst && startsWord "self" ts) &&
      startsColon (second ts) then
    inOrder [take 2, g.typeTokens]
  else g.typeTokens

/-- Whether the trees start with variadic parameters: `...`, with a name or without. -/
def startsVariadic (ts : Tokens) : Bool :=
  startsMark "..." ts ||
    (startsName ts || startsWord "_" ts) && startsMark ":" (second ts) && startsMark "..." (third ts)

/-- The parameters of a pointer to a function; `isFirst` tells whether there are none before. -/
def pointerParamsFor (g : Grammar) (fuel : Nat) (isFirst : Bool) : Reading Tokens :=
  match fuel with
  | 0 => return []
  | fuel + 1 => do
    if ← ahead List.isEmpty then return []
    let attributes ← g.attributeTokens
    if ← ahead startsVariadic then
      let name ← optionally startsIdent (take 2)
      return attributes ++ name ++ (← mark "...") ++ (← markIf ",")
    else
      let this ← g.pointerParam isFirst
      if ← ahead List.isEmpty then return attributes ++ this
      else
        return attributes ++ this ++ (← mark ",") ++ (← g.pointerParamsFor fuel false)

def pointerType (g : Grammar) : Reading Tokens :=
  inOrder [wordIf "unsafe", convention, word "fn",
    group .paren (do g.pointerParamsFor ((← rest).length + 1) true), g.output false]

/-! ## All types -/

def bracketType (g : Grammar) : Reading Tokens :=
  group .bracket
    (inOrder [g.typeTokens, optionally (startsMark ";") (inOrder [take 1, g.exprTokens])])

/-- A type behind `*`. -/
def rawPointerType (g : Grammar) : Reading Tokens := do
  let start ← mark "*"
  if ← ahead (startsAnyWord ["const", "mut"]) then
    return start ++ (← take 1) ++ (← g.type false).tokens
  else expectedOneOf ["`const`", "`mut`"]

/-- A type behind `&`. -/
def referenceType (g : Grammar) : Reading Tokens :=
  inOrder [mark "&", lifetimeIf, wordIf "mut", do return (← g.type false).tokens]

/-- A type that starts with a path, behind the lifetimes that hold for it. -/
def pathType (g : Grammar) (plus : Bool) (binder : Tokens) : Reading TypeText := do
  let path ← g.called (← g.qualifiedPath false)
  let written := binder ++ path.tokens
  let ts ← rest
  if path.isQualified then return plainType path.tokens
  else if path.isPlain && startsBang ts then return plainType (path.tokens ++ (← invocation))
  else if plus && startsMark "+" ts then
    let start ← take 1
    return plainType (written ++ start ++ boundsTokens (← g.moreBounds false false))
  else if !binder.isEmpty then return ⟨written, .bound written⟩
  else return ⟨written, .path path.isWord path.optional?⟩

def startsTypePath (ts : Tokens) : Bool :=
  startsName ts || startsAnyWord ["super", "self", "Self", "crate"] ts || startsAnyMark ["::", "<"] ts

def readType (g : Grammar) (plus : Bool) : Reading TypeText := do
  let binder ← optionally (startsWord "for") g.binder
  let ts ← rest
  let bound := !binder.isEmpty
  if startsAnyWord ["fn", "unsafe", "extern"] ts then
    return plainType (binder ++ (← g.pointerType))
  else if startsTypePath ts && (!bound || startsIdent ts) then g.pathType plus binder
  else if bound then expectedOneOf boundTypeStarts
  else if startsGroup .paren ts then g.parenType plus
  else if startsWord "dyn" ts then g.dynType plus
  else if startsGroup .bracket ts then return plainType (← g.bracketType)
  else if startsMark "*" ts then return plainType (← g.rawPointerType)
  else if startsMark "&" ts then return plainType (← g.referenceType)
  else if startsMark "!" ts then return plainType (← take 1)
  else if startsWord "impl" ts then g.implType plus
  else if startsWord "_" ts then return plainType (← take 1)
  else if startsLifetime ts then g.lifetimeType plus
  else expectedOneOf typeStarts

end Grammar

end ScreenRoutes
