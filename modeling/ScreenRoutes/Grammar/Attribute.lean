import ScreenRoutes.Grammar.Basic

/-!
# Visibility and attributes

A visibility is `pub`, with a restriction or without. Attributes stand between `#[` and `]`, those
of what is around them between `#![` and `]`. An attribute has a path and perhaps arguments, which
stay as they stand, or a value, which is an expression.
-/

namespace ScreenRoutes

open Reading Tokens

namespace Reading

/-! ## Plain paths -/

/-- Words that may stand in a path though they are reserved. -/
def pathWords : List String :=
  ["super", "self", "Self", "crate"]

/-- Whether the trees start with a segment of a plain path. -/
def startsPathWord (ts : Tokens) : Bool :=
  startsName ts || startsAnyWord pathWords ts

/-- A path without any generic arguments. -/
def plainPath : Reading Tokens := do
  let root ← markIf "::"
  let segments ← list "::" (!startsPathWord ·) (!startsMark "::" ·) (take 1)
  match segments.getLast? with
  | none => return root ++ (← nameTokens)
  | some (_, []) => return root ++ listTokens segments
  | some _ => expected "path segment after `::`"

/-! ## Visibility -/

def visibility : Reading Tokens := do
  if ← ahead (startsWord "pub") then
    let word ← take 1
    match ← rest with
    | .group .paren [.ident w] :: _ =>
      if ["crate", "self", "super"].contains w then return word ++ (← take 1) else return word
    | .group .paren (.ident "in" :: _) :: _ =>
      return word ++ (← group .paren (inOrder [take 1, plainPath]))
    | _ => return word
  else return []

end Reading

/-! ## Attributes -/

/-- What an attribute carries behind its path. -/
inductive AttributeInput where
  | none
  | value
  | arguments (tokens : Tokens)

/-- An attribute with its path, if that is one word. -/
structure Attribute where
  tokens : Tokens
  name : Option String
  input : AttributeInput

namespace Grammar

def attributeValue (g : Grammar) : Reading Tokens := do
  let ts ← rest
  match ← foresee literal with
  | some (_, []) => literal
  | _ =>
    if startsMark "#" ts && startsGroup .bracket (second ts) then throw .nestedAttribute
    else g.exprTokens

def attributeInside (g : Grammar) : Reading Attribute := do
  let path ← if ← ahead (startsWord "unsafe") then take 1 else plainPath
  let name :=
    match path with
    | [.ident w] => some w
    | _ => none
  match ← rest with
  | .group _ arguments :: _ => return ⟨path ++ (← take 1), name, .arguments arguments⟩
  | ts =>
    if startsMark "=" ts then return ⟨path ++ (← take 1) ++ (← g.attributeValue), name, .value⟩
    else return ⟨path, name, .none⟩

/-- An attribute, behind its `#` and what may follow that. -/
def attributeBehind (g : Grammar) (start : Tokens) : Reading Attribute := do
  let a ← inside .bracket g.attributeInside
  return { a with tokens := start ++ [.group .bracket a.tokens] }

def attributes (g : Grammar) : Reading (List Attribute) :=
  repeatWhile (startsMark "#") do g.attributeBehind (← take 1)

def attributeTokens (g : Grammar) : Reading Tokens := do
  return (← g.attributes).flatMap (·.tokens)

/-- The trees of attributes of what is around them. -/
def innerAttributes (g : Grammar) : Reading Tokens := do
  let found ← repeatWhile (fun ts => startsMark "#" ts && startsMark "!" (second ts)) do
    g.attributeBehind (← take 2)
  return found.flatMap (·.tokens)

/-- Statements between braces, with attributes of the whole in front. -/
def attributedBlock (g : Grammar) : Reading Tokens :=
  group .brace (inOrder [g.innerAttributes, g.statements])

end Grammar

end ScreenRoutes
