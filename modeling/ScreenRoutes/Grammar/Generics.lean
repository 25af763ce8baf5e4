import ScreenRoutes.Grammar.Path

/-!
# Generic parameters and bounds

Parameters stand between angle brackets, their bounds behind a colon or in conditions behind
`where`. A colon or `where` that nothing follows is not written again, but the colon of a condition
is.
-/

namespace ScreenRoutes

open Reading Tokens

namespace Grammar

/-! ## Parameters -/

/-- Bounds with the mark in front, which is left out where there are none. -/
def boundedTokens (start : Tokens) (bounds : List (Tokens × Tokens)) : Tokens :=
  if bounds.isEmpty then [] else start ++ listTokens bounds

/-- Bounds behind a colon, if there is one, up to where `stops` says so. -/
def colonBounds (g : Grammar) (stops : Tokens → Bool) : Reading Tokens := do
  let colon ← markIf ":"
  if colon.isEmpty then return []
  else
    return boundedTokens colon
      (← list "+" stops (!startsMark "+" ·) (g.boundTokens false true))

def lifetimeParam : Reading Tokens := do
  let this ← lifetime
  let colon ← markIf ":"
  if colon.isEmpty then return this
  else
    let stops (ts : Tokens) : Bool := ts.isEmpty || startsAnyMark [",", ">"] ts
    return this ++ boundedTokens colon (← list "+" stops (!startsMark "+" ·) lifetime)

def typeParam (g : Grammar) : Reading Tokens :=
  inOrder [nameTokens, g.colonBounds fun ts => ts.isEmpty || startsAnyMark [",", ">", "="] ts,
    optionally (startsMark "=") (inOrder [take 1, g.typeTokens])]

def constantParam (g : Grammar) : Reading Tokens :=
  inOrder [word "const", nameTokens, mark ":", g.typeTokens,
    optionally (startsMark "=") (inOrder [take 1, g.constant])]

/-- A generic parameter. The placeholder `_` is one where a declaration has its parameters. -/
def genericParam (g : Grammar) (declared : Bool) : Reading (AngledKind × Tokens) := do
  let attributes ← g.attributeTokens
  let ts ← rest
  if startsLifetime ts then return (.lifetime, attributes ++ (← lifetimeParam))
  else if startsName ts then return (.type, attributes ++ (← g.typeParam))
  else if startsWord "const" ts then return (.other, attributes ++ (← g.constantParam))
  else if declared && startsWord "_" ts then return (.type, attributes ++ (← take 1))
  else if declared then expectedOneOf ["lifetime", "identifier", "`const`"]
  else expectedOneOf ["identifier", "lifetime", "`const`"]

def generics (g : Grammar) : Reading (List AngledItem) := do
  if ← ahead (startsMark "<") then angledItems (g.genericParam true) else return []

/-- The trees of the generic parameters of a declaration. -/
def genericsTokens (g : Grammar) : Reading Tokens := do
  return genericTokens (← g.generics)

/-- Lifetimes that hold for what follows: `for` with parameters between angle brackets. -/
def binder (g : Grammar) : Reading Tokens := do
  let start ← inOrder [word "for", mark "<"]
  let params ← list "," (startsMark ">") (startsMark ">") do
    return (← g.genericParam false).2
  return start ++ listTokens params ++ (← mark ">")

/-! ## Bounds -/

/-- A parameter that is captured, and a look at what follows it. -/
def captured : Reading (AngledKind × Tokens) := do
  let ts ← rest
  let item ←
    if startsLifetime ts then pure (.lifetime, ← lifetime)
    else if startsName ts || startsWord "Self" ts then pure (.type, ← take 1)
    else expectedOneOf ["lifetime", "identifier", "`>`"]
  if ← ahead (startsAnyMark [",", ">"]) then return item else expectedOneOf ["`,`", "`>`"]

/-- The generic parameters that are captured. -/
def captures : Reading Tokens := do
  let start ← word "use"
  return start ++ angledTokens (← angledItems captured)

/-- A bound by a trait, and whether it stays as it stands because it is constant. -/
def traitBound (g : Grammar) (constant : Bool) : Reading (Bool × Tokens) := do
  let early ← optionally (startsWord "for") g.binder
  let bracketed ← ahead (startsGroup .bracket)
  let const ← if bracketed then group .bracket (word "const") else wordIf "const"
  if !const.isEmpty && !constant then throw (.misplacedConst bracketed)
  let relaxed ← markIf "?"
  let late ←
    if early.isEmpty && !relaxed.isEmpty then optionally (startsWord "for") g.binder else pure []
  let path ← g.called (← g.path false)
  let binder := early ++ late
  if !binder.isEmpty && !relaxed.isEmpty then throw .relaxedBinder
  return (!const.isEmpty, relaxed ++ binder ++ path.tokens)

/-- A bound by a trait, between parentheses or not. -/
def enclosedTrait (g : Grammar) (constant : Bool) : Reading (Option Tokens) := do
  if ← ahead (startsGroup .paren) then
    let (fixed, ts) ← inside .paren (g.traitBound constant)
    return if fixed then none else some [.group .paren ts]
  else
    let (fixed, ts) ← g.traitBound constant
    return if fixed then none else some ts

/-- A bound: a lifetime, captured parameters, or a trait. -/
def readBound (g : Grammar) (capture constant : Bool) : Reading Bound := do
  let ts ← rest
  if startsLifetime ts then return ⟨.lifetime, ← lifetime⟩
  else if startsWord "use" ts then
    let found ← captures
    if capture then return ⟨.capture, found⟩ else throw .misplacedCapture
  else return ⟨.trait, ← orAsWritten (g.enclosedTrait constant)⟩

/-- Whether another bound follows a `+`. -/
def startsBound (constant : Bool) (ts : Tokens) : Bool :=
  startsIdent ts || startsAnyMark ["::", "?"] ts || startsLifetime ts || startsGroup .paren ts ||
    constant && startsGroup .bracket ts

/-- Further bounds behind `+`, the last of which may be missing. -/
def moreBounds (g : Grammar) (capture constant : Bool) : Reading (List (Bound × Tokens)) :=
  list "+" (!startsBound constant ·) (!startsMark "+" ·) (g.bound capture constant)

/-- Bounds with `+` between them, if it may stand there. -/
def bounds (g : Grammar) (plus capture constant : Bool) : Reading (List (Bound × Tokens)) := do
  let first ← g.bound capture constant
  if plus && (← ahead (startsMark "+")) then
    let mark ← take 1
    return (first, mark) :: (← g.moreBounds capture constant)
  else return [(first, [])]

def boundsTokens (bounds : List (Bound × Tokens)) : Tokens :=
  bounds.flatMap fun (bound, mark) => bound.tokens ++ mark

/-! ## Conditions -/

/-- Whether a colon comes next that is not part of a `::`. -/
def startsColon (ts : Tokens) : Bool :=
  startsMarkNot ":" ["::"] ts

/-- Whether a condition or its bounds end here. -/
def endsCondition (ts : Tokens) : Bool :=
  ts.isEmpty || startsGroup .brace ts || startsAnyMark [",", ";", "="] ts || startsColon ts

/-- A condition: the bounds of a lifetime or of a type. -/
def condition (g : Grammar) : Reading Tokens := do
  let ts ← rest
  if startsLifetime ts && startsMark ":" (second ts) then
    let start ← inOrder [lifetime, take 1]
    let stops (ts : Tokens) : Bool := endsCondition ts || startsMark ":" ts
    return start ++ listTokens (← list "+" stops (!startsMark "+" ·) lifetime)
  else
    let start ← inOrder
      [optionally (fun ts => startsWord "for" ts && startsMark "<" (second ts)) g.binder,
        g.typeTokens, mark ":"]
    return start ++
      listTokens (← list "+" endsCondition (!startsMark "+" ·) (g.boundTokens false true))

/-- Whether the trees start with generic parameters rather than with a qualified path. -/
def startsGenerics (ts : Tokens) : Bool :=
  let inside := second ts
  startsMark "<" ts &&
    (startsAnyMark [">", "#"] inside || startsWord "const" inside ||
      (startsLifetime inside || startsName inside) &&
        (startsColon (third ts) || startsAnyMark [",", ">", "="] (third ts)))

def conditions (g : Grammar) : Reading Tokens := do
  if ← ahead (startsWord "where") then
    let start ← take 1
    if ← ahead startsGenerics then throw .reservedGenerics
    return boundedTokens start (← list "," endsCondition (!startsMark "," ·) g.condition)
  else return []

end Grammar

end ScreenRoutes
