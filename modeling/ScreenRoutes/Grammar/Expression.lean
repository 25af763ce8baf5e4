import ScreenRoutes.Grammar.Operator

/-!
# Expressions

Operands: literals, paths, calls and members behind them, blocks and what leads into them, closures,
tuples and arrays, and jumps. An index of a tuple is written as a number of its own, so that a
fraction stands for two of them.
-/

namespace ScreenRoutes

open Reading Tokens

namespace Grammar

/-- An expression that ends a statement by itself. -/
def blockLike (ts : Tokens) : ExprText :=
  ⟨ts, .blockLike, false⟩

/-! ## Behind an operand -/

def fractionIndices (parts : List String) : Reading Tokens := do
  let indices ← parts.mapM indexTokens
  return (indices.intersperse (TokenTree.mark ".")).flatten

/-- The members behind a point: those of a fraction, or of a fraction that ends with a point and what
comes behind that, or one alone. The second part tells whether one is still to come. -/
def fractionMembers : Reading (Tokens × Bool) := do
  match ← rest with
  | .literal l :: _ =>
    if isFraction l then
      let _ ← take 1
      match (l.splitOn ".").reverse with
      | "" :: parts => return ((← fractionIndices parts.reverse) ++ TokenTree.mark ".", true)
      | _ => return (← fractionIndices (l.splitOn "."), false)
    else return ([], true)
  | _ => return ([], true)

def callArguments (g : Grammar) : Reading Tokens :=
  group .paren (commaList g.exprTokens)

/-- A member behind a point, or a call of a method. -/
def memberBehind (g : Grammar) : Reading Tokens := do
  let (start, isOpen) ← fractionMembers
  if !isOpen then return start
  else if ← ahead (startsWord "await") then return start ++ (← take 1)
  else
    let isName ← ahead startsName
    let this ← member
    if isName then
      let turbofish ← optionally (startsMark "::") do
        let colons ← take 2
        return colons ++ angledTokens (← angledItems g.genericArgument)
      if !turbofish.isEmpty || (← ahead (startsGroup .paren)) then
        return start ++ this ++ turbofish ++ (← g.callArguments)
      else return start ++ this
    else return start ++ this

/-- Whether a point comes next that is not the mark of a range. -/
def startsPoint (ts : Tokens) : Bool :=
  startsMarkNot "." [".."] ts

/-- Reads calls, members, indices and `?` behind an operand. -/
def trailersFor (g : Grammar) (fuel : Nat) (e : ExprText) : Reading ExprText :=
  match fuel with
  | 0 => return e
  | fuel + 1 => do
    let ts ← rest
    let goOn (p : Reading Tokens) : Reading ExprText := do
      g.trailersFor fuel (.plain (e.tokens ++ (← p)))
    if startsGroup .paren ts then goOn g.callArguments
    else if startsPoint ts && e.form ≠ .range then goOn (inOrder [take 1, g.memberBehind])
    else if startsGroup .bracket ts then goOn (group .bracket g.exprTokens)
    else if startsMark "?" ts && e.form ≠ .range then goOn (take 1)
    else return e

/-- Whether a call, a member, an index or `?` comes next. -/
def startsTrailer (ts : Tokens) : Bool :=
  startsGroup .paren ts || startsPoint ts || startsGroup .bracket ts || startsMark "?" ts

/-- Reads calls, members, indices and `?` behind an operand. -/
def trailers (g : Grammar) (e : ExprText) : Reading ExprText := do
  let ts ← rest
  if startsTrailer ts then g.trailersFor (ts.length + 1) e else return e

/-! ## Blocks and what leads into them -/

/-- An expression in front of a block. -/
def subject (g : Grammar) : Reading Tokens := do
  return (← g.expr false).tokens

def branchesFor (g : Grammar) (fuel : Nat) : Reading Tokens :=
  match fuel with
  | 0 => return []
  | fuel + 1 => do
    let start ← inOrder [word "if", g.subject, g.block]
    if ← ahead (startsWord "else") then
      let other ← take 1
      if ← ahead (startsWord "if") then return start ++ other ++ (← g.branchesFor fuel)
      else if ← ahead (startsGroup .brace) then return start ++ other ++ (← g.block)
      else expectedOneOf ["`if`", "curly braces"]
    else return start

def branches (g : Grammar) : Reading Tokens := do
  g.branchesFor ((← rest).length + 1)

def matchArm (g : Grammar) : Reading Tokens := do
  let start ← inOrder
    [g.attributeTokens, g.alternativesTokens,
      optionally (startsWord "if") (inOrder [take 1, g.exprTokens]), mark "=>"]
  let body ← g.statement
  let comma ←
    if body.needsComma && !(← ahead List.isEmpty) then mark "," else markIf ","
  return start ++ body.tokens ++ comma

def matchArms (g : Grammar) : Reading Tokens :=
  group .brace do
    return (← g.innerAttributes) ++ (← repeatToEnd g.matchArm).flatten

def matching (g : Grammar) : Reading Tokens :=
  inOrder [word "match", g.subject, g.matchArms]

/-- A loop of any kind, from its word on. -/
def looping (g : Grammar) : Reading Tokens := do
  let ts ← rest
  if startsWord "while" ts then inOrder [take 1, g.subject, g.attributedBlock]
  else if startsWord "for" ts then
    inOrder [take 1, g.alternativesTokens, word "in", g.subject, g.attributedBlock]
  else inOrder [word "loop", g.attributedBlock]

/-- A loop or a block with a label. -/
def labelled (g : Grammar) : Reading Tokens := do
  let label ← inOrder [lifetime, mark ":"]
  let ts ← rest
  if startsAnyWord ["while", "for", "loop"] ts then return label ++ (← g.looping)
  else if startsGroup .brace ts then return label ++ (← g.attributedBlock)
  else expected "loop or block expression"

/-! ## Closures -/

def closureParam (g : Grammar) : Reading Tokens := do
  let attributes ← g.attributeTokens
  let pattern ← g.pattern
  if ← ahead (startsMark ":") then
    return attributes ++ pattern.tokens ++ (← inOrder [take 1, g.typeTokens])
  else if pattern.form = .fixed then return pattern.tokens
  else return attributes ++ pattern.tokens

def closure (g : Grammar) (fields : Bool) : Reading Tokens := do
  let marks ← inOrder [optionally (startsWord "for") g.binder, wordIf "const", wordIf "static",
    wordIf "async", wordIf "move", mark "|"]
  let params ← list "," (startsMark "|") (startsMark "|") g.closureParam
  let start := marks ++ listTokens params ++ (← mark "|")
  if ← ahead (startsMark "->") then
    return start ++ (← inOrder [take 2, g.typeTokens, g.block])
  else return start ++ (← g.expr fields).tokens

/-- Whether the lifetimes that hold for a closure come next. -/
def startsClosureBinder (ts : Tokens) : Bool :=
  startsWord "for" ts && startsMark "<" (second ts) &&
    (startsLifetime (third ts) || startsMark ">" (third ts))

def startsClosure (ts : Tokens) : Bool :=
  let behind := second ts
  startsMark "|" ts || startsWord "move" ts || startsClosureBinder ts ||
    startsWord "const" ts && !startsGroup .brace behind || startsWord "static" ts ||
    startsWord "async" ts && (startsMark "|" behind || startsWord "move" behind)

/-! ## Jumps -/

def startsExpr (ts : Tokens) : Bool :=
  startsIdent ts && !startsWord "as" ts ||
    startsGroup .paren ts || startsGroup .bracket ts || startsGroup .brace ts ||
    startsLiteral ts || startsLifetime ts ||
    startsMarkNot "!" ["!="] ts || startsMarkNot "-" ["-=", "->"] ts || startsMarkNot "*" ["*="] ts ||
    startsMarkNot "|" ["|="] ts || startsMarkNot "&" ["&="] ts ||
    startsMarkNot "<" ["<=", "<<="] ts || startsAnyMark ["..", "::", "#"] ts

/-- A `break`, with a label and a value or without. -/
def breaking (g : Grammar) (fields : Bool) : Reading Tokens := do
  let start ← word "break"
  let ts ← rest
  if startsLifetime ts && startsMark ":" (second ts) then
    let _ ← g.expr true
    throw .labelledBreak
  else
    let label ← lifetimeIf
    let value ← optionally (fun ts => startsExpr ts && (fields || !startsGroup .brace ts)) g.exprTokens
    return start ++ label ++ value

/-- A word that takes the value of an expression elsewhere, if one follows. -/
def returning (g : Grammar) : Reading Tokens :=
  inOrder [take 1, optionally startsExpr g.exprTokens]

/-! ## Parentheses, brackets, and structures -/

/-- An expression between parentheses, or a tuple. -/
def parenExpr (g : Grammar) : Reading Tokens :=
  group .paren (commaList g.exprTokens)

/-- The inside of an array: its elements, or one of them and how often it is repeated. -/
def arrayInside (g : Grammar) : Reading Tokens := do
  if ← ahead List.isEmpty then return []
  let first ← g.exprTokens
  let ts ← rest
  if ts.isEmpty then return first
  else if startsMark "," ts then return first ++ (← take 1) ++ (← commaList g.exprTokens)
  else if startsMark ";" ts then return first ++ (← take 1) ++ (← g.exprTokens)
  else expected "`,` or `;`"

/-- A field of a structure: its name alone, or a value behind a colon. -/
def fieldValue (g : Grammar) : Reading Tokens := do
  let attributes ← g.attributeTokens
  let isName ← ahead startsName
  let this ← member
  if !isName || (← ahead (startsMark ":")) then
    return attributes ++ this ++ (← inOrder [mark ":", g.exprTokens])
  else return attributes ++ this

/-- The fields of a structure, and where the others come from. -/
def fieldValuesFor (g : Grammar) (fuel : Nat) : Reading Tokens :=
  match fuel with
  | 0 => return []
  | fuel + 1 => do
    let ts ← rest
    if ts.isEmpty then return []
    else if startsMark ".." ts then inOrder [take 2, optionally (!·.isEmpty) g.exprTokens]
    else
      let this ← g.fieldValue
      if ← ahead List.isEmpty then return this
      else return this ++ (← mark ",") ++ (← g.fieldValuesFor fuel)

/-- The fields of a structure between braces. -/
def fieldValues (g : Grammar) : Reading Tokens :=
  group .brace (do g.fieldValuesFor ((← rest).length + 1))

def pathExpr (g : Grammar) (fields : Bool) : Reading ExprText := do
  let path ← g.qualifiedPath true
  let ts ← rest
  if !path.isQualified && startsBang ts && path.isPlain then
    let called ← invocation
    return ⟨path.tokens ++ called, .invocation (startsGroup .brace (called.drop 1)), false⟩
  else if fields && startsGroup .brace ts then
    return .plain (path.tokens ++ (← g.fieldValues))
  else return .plain path.tokens

/-! ## All operands -/

/-- A call of what the compiler provides, which stays as it stands. -/
def builtIn : Reading Tokens := do
  let start ← inOrder [word "builtin", mark "#", nameTokens]
  match ← rest with
  | .group .paren _ :: _ => return start ++ (← take 1)
  | _ => expected "parentheses"

/-- A condition that takes a value apart. -/
def letting (g : Grammar) (fields : Bool) : Reading Tokens := do
  let start ← inOrder [word "let", g.alternativesTokens, mark "="]
  let value ← g.operators fields .compare (← g.operand fields)
  return start ++ value.tokens

def startsExprPath (ts : Tokens) : Bool :=
  startsName ts || startsAnyMark ["::", "<"] ts ||
    startsAnyWord ["self", "Self", "super", "crate"] ts ||
    startsWord "try" ts && startsAnyMark ["!", "::"] (second ts)

/-- An operand without anything in front or behind. -/
def atom (g : Grammar) (fields : Bool) : Reading ExprText := do
  let ts ← rest
  let behind := second ts
  match ts with
  | .literal l :: _ =>
    let _ ← take 1
    return ⟨[.literal l], .literal l, false⟩
  | _ =>
    if startsLiteral ts then return .plain (← literal)
    else if startsWord "async" ts &&
        (startsGroup .brace behind || startsWord "move" behind && startsGroup .brace (third ts)) then
      return .plain (← inOrder [take 1, wordIf "move", g.block])
    else if startsWord "try" ts && startsGroup .brace behind then
      return blockLike (← inOrder [take 1, g.block])
    else if startsClosure ts then return .plain (← g.closure fields)
    else if startsWord "builtin" ts && startsMark "#" behind then
      return ⟨← builtIn, .other, true⟩
    else if startsExprPath ts then g.pathExpr fields
    else if startsGroup .paren ts then return .plain (← g.parenExpr)
    else if startsWord "break" ts then return .plain (← g.breaking fields)
    else if startsWord "continue" ts then return .plain (← inOrder [take 1, lifetimeIf])
    else if startsAnyWord ["return", "yield"] ts then return .plain (← g.returning)
    else if startsWord "become" ts then
      return ⟨← asWritten (inOrder [take 1, g.exprTokens]), .other, true⟩
    else if startsGroup .bracket ts then return .plain (← group .bracket g.arrayInside)
    else if startsWord "let" ts then return .plain (← g.letting fields)
    else if startsWord "if" ts then return blockLike (← g.branches)
    else if startsAnyWord ["while", "for", "loop"] ts then return blockLike (← g.looping)
    else if startsWord "match" ts then return blockLike (← g.matching)
    else if startsAnyWord ["unsafe", "const"] ts then
      return blockLike (← inOrder [take 1, g.attributedBlock])
    else if startsGroup .brace ts then return blockLike (← g.attributedBlock)
    else if startsMark ".." ts then return ⟨← g.rangeFrom fields, .range, false⟩
    else if startsWord "_" ts then return .plain (← take 1)
    else if startsLifetime ts then return blockLike (← g.labelled)
    else expected "an expression"

/-- An operand with what comes behind it, given the attributes in front; where it stays as it stands
they do too. -/
def trailing (g : Grammar) (fields : Bool) (attributes written : Tokens) : Reading ExprText := do
  let e ← g.trailers (← g.atom fields)
  if e.fixed then return { e with tokens := written ++ e.tokens }
  else if !attributes.isEmpty && e.form = .range then throw .rangeAttribute
  else return e.withAttributes attributes

/-- A reference, which may be raw. -/
def reference (g : Grammar) (fields : Bool) : Reading Tokens := do
  let start ← mark "&"
  let raw ← ahead fun ts => startsWord "raw" ts && startsAnyWord ["mut", "const"] (second ts)
  let marks ← if raw then take 2 else wordIf "mut"
  return start ++ marks ++ (← g.operand fields).tokens

def readOperand (g : Grammar) (fields : Bool) : Reading ExprText := do
  let (attributes, written) ←
    if ← ahead (startsMark "#") then withWritten g.attributeTokens else pure ([], [])
  let ts ← rest
  if startsMark "&" ts then
    return .plain (attributes ++ (← g.reference fields))
  else if startsAnyMark ["*", "!", "-"] ts then
    let operator ← take 1
    let e ← g.operand fields
    let form := if startsMark "-" ts then e.form.negation else .other
    return ⟨attributes ++ operator ++ e.tokens, form, false⟩
  else g.trailing fields attributes written

/-! ## Expressions as statements -/

/-- An expression that leads a statement: what ends with a block is taken by itself. -/
def leading (g : Grammar) : Reading ExprText := do
  let ts ← rest
  let behind := second ts
  if startsWord "if" ts then return blockLike (← g.branches)
  else if startsAnyWord ["while", "loop"] ts || startsWord "for" ts && !startsClosureBinder ts then
    return blockLike (← g.looping)
  else if startsWord "match" ts then return blockLike (← g.matching)
  else if startsWord "try" ts && startsGroup .brace behind then
    return blockLike (← inOrder [take 1, g.block])
  else if startsWord "unsafe" ts || startsWord "const" ts && startsGroup .brace behind then
    return blockLike (← inOrder [take 1, g.attributedBlock])
  else if startsGroup .brace ts then return blockLike (← g.attributedBlock)
  else if startsLifetime ts then return blockLike (← g.labelled)
  else g.operand true

/-- An expression that ends where a statement does. -/
def readStatement (g : Grammar) : Reading ExprText := do
  let attributes ← g.attributeTokens
  let e ← g.leading
  if e.form ≠ .blockLike then g.operators true .jump (e.withAttributes attributes)
  else if ← ahead fun ts => startsPoint ts || startsMark "?" ts then
    g.operators true .jump ((← g.trailers e).withAttributes attributes)
  else return e.withAttributes attributes

end Grammar

end ScreenRoutes
