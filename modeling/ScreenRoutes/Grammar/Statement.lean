import ScreenRoutes.Grammar.Expression

/-!
# Statements

Bindings, items, calls of what stands for code, and expressions. An expression needs a semicolon
behind it unless it is the last statement or ends by itself.
-/

namespace ScreenRoutes

open Reading Tokens

namespace Grammar

/-! ## Bindings -/

def binds (g : Grammar) : Reading Tokens := do
  let start ← inOrder
    [word "let", g.patternTokens, optionally (startsMark ":") (inOrder [take 1, g.typeTokens])]
  let mark ← markIf "="
  let value ← if mark.isEmpty then pure [] else do
    let e ← g.expr true
    let otherwise ←
      if e.endsInBraces then pure []
      else optionally (startsWord "else") (inOrder [take 1, g.block])
    pure (e.tokens ++ otherwise)
  return start ++ mark ++ value ++ (← Reading.mark ";")

/-! ## Items among statements -/

def startsItem (ts : Tokens) : Bool :=
  let behind := second ts
  let further := third ts
  match ts with
  | .ident w :: _ =>
    match w with
    | "pub" | "extern" | "use" | "fn" | "mod" | "type" | "struct" | "enum" | "trait" | "impl"
    | "macro" => true
    | "crate" => !startsMark "::" behind
    | "static" => startsWord "mut" behind || startsName behind
    | "const" =>
      !(startsGroup .brace behind || startsAnyWord ["static", "move"] behind ||
        startsMark "|" behind ||
        startsWord "async" behind && !startsAnyWord ["unsafe", "extern", "fn"] further)
    | "unsafe" => !startsGroup .brace behind
    | "async" => startsAnyWord ["unsafe", "extern", "fn"] behind
    | "union" => startsName behind
    | "auto" => startsWord "trait" behind
    | "default" => startsAnyWord ["unsafe", "impl"] behind
    | _ => false
  | _ => false

/-- What the trees behind a plain path tell of it: the call of something that stands for an item, or
for statements. -/
inductive Invoked where
  | item
  | statements
  | neither
  deriving DecidableEq, Repr

/-- What the trees behind a plain path tell of it. -/
def invokedBehind (ts : Tokens) : Invoked :=
  let behind := second ts
  let further := third ts
  if !startsMark "!" ts then .neither
  else if startsName behind || startsWord "try" behind then .item
  else if startsGroup .brace behind && !(startsPoint further || startsMark "?" further) then
    .statements
  else .neither

/-! ## Statements -/

/-- A statement, and whether a semicolon must follow if it is not the last one. -/
def oneStatement (g : Grammar) : Reading (Tokens × Bool) := do
  let start ← get
  let attributes ← g.attributeTokens
  let invoked ←
    match ← foresee plainPath with
    | some (_, ts) => pure (invokedBehind ts)
    | none => pure .neither
  let ts ← rest
  if invoked = .statements then
    return (attributes ++ (← inOrder [plainPath, invocation, markIf ";"]), false)
  else if startsWord "let" ts then return (attributes ++ (← g.binds), false)
  else if invoked = .item || startsItem ts then
    set start
    return (← g.item, false)
  else
    let e ← g.statement
    let semicolon ← markIf ";"
    return ((e.withAttributes attributes).tokens ++ semicolon,
      semicolon.isEmpty && e.needsSemicolon)

def statementsFor (g : Grammar) (fuel : Nat) : Reading Tokens :=
  match fuel with
  | 0 => return []
  | fuel + 1 => do
    let semicolons ← repeatWhile (startsMark ";") (take 1)
    if ← ahead List.isEmpty then return semicolons.flatten
    let (this, unended) ← g.oneStatement
    if unended && !(← ahead List.isEmpty) then throw .unended
    return semicolons.flatten ++ this ++ (← g.statementsFor fuel)

def readStatements (g : Grammar) : Reading Tokens := do
  g.statementsFor ((← rest).length + 1)

end Grammar

end ScreenRoutes
