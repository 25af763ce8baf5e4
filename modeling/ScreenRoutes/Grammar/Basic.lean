import ScreenRoutes.Token.Reading

/-!
# Grammar

What readings of code yield beside its trees, as far as the code around it needs to know: of a type
whether it is a path, of an expression whether it ends a statement, and so on. A `Grammar` holds the
readings that refer to each other, so each of them can be written down by itself; each takes the
grammar for the code that is nested within.

A reading stands for `parse2` of an item, a type and so on; the trees that it yields are what
`to_tokens` makes of the result.
-/

namespace ScreenRoutes

open TokenTree (mark)

/-! ## Items between angle brackets -/

/-- What stands between angle brackets: a lifetime, a type, or something else. -/
inductive AngledKind where
  | lifetime
  | type
  | other
  deriving DecidableEq, Repr

/-- A generic parameter or argument, and the comma behind it if there is one. -/
structure AngledItem where
  kind : AngledKind
  tokens : Tokens
  comma : Bool

def commaTokens (comma : Bool) : Tokens :=
  if comma then mark "," else []

def AngledItem.written (i : AngledItem) : Tokens :=
  i.tokens ++ commaTokens i.comma

/-- Items between angle brackets: lifetimes first, then the others, with a comma between the two
where there is none. -/
def angledTokens (items : List AngledItem) : Tokens :=
  let lifetimes := items.filter (·.kind = .lifetime)
  let others := items.filter (·.kind ≠ .lifetime)
  let gap := !others.isEmpty && lifetimes.getLast?.any (!·.comma)
  mark "<" ++ lifetimes.flatMap (·.written) ++ commaTokens gap ++ others.flatMap (·.written) ++
    mark ">"

/-- Generic parameters; of none at all nothing is written. -/
def genericTokens (items : List AngledItem) : Tokens :=
  if items.isEmpty then [] else angledTokens items

/-! ## Types, bounds, patterns and expressions -/

/-- What a type is: a path that is not qualified, with the type inside if it is an optional one; a
single bound without `dyn`, with its trees outside any parentheses; or something else. -/
inductive TypeForm where
  | path (isWord : Bool) (inner : Option Tokens)
  | bound (bare : Tokens)
  | other

structure TypeText where
  tokens : Tokens
  form : TypeForm

/-- The type inside an optional one. -/
def TypeText.inner (t : TypeText) : Option Tokens :=
  match t.form with
  | .path _ inner => inner
  | .bound _ | .other => none

/-- Whether the type is one word, with or without generic arguments. -/
def TypeText.isWord (t : TypeText) : Bool :=
  match t.form with
  | .path isWord _ => isWord
  | .bound _ | .other => false

/-- The bound that the type is where a `+` follows it, outside any parentheses. -/
def TypeText.bare? (t : TypeText) : Option Tokens :=
  match t.form with
  | .path _ _ => some t.tokens
  | .bound bare => some bare
  | .other => none

/-- The type as one word, without any blank. -/
def TypeText.source (t : TypeText) : String :=
  squeezeTokens t.tokens

inductive BoundKind where
  | lifetime
  | capture
  | trait
  deriving DecidableEq, Repr

structure Bound where
  kind : BoundKind
  tokens : Tokens

/-- What a pattern is: a name, with marks around it or without; `..`; a range without one of its
ends; or something else. -/
inductive PatternForm where
  | binding (name : String)
  | rest
  | openRange
  | fixed
  | other
  deriving DecidableEq, Repr

/-- A pattern. A fixed one stays as it stands. -/
structure PatternText where
  tokens : Tokens
  form : PatternForm

/-- The name that the pattern binds, if it is no more than a name with marks around it. -/
def PatternText.name (p : PatternText) : Option String :=
  match p.form with
  | .binding name => some name
  | _ => none

/-- What an expression is: one that ends a statement by itself, a range, a comparison, the call of
something that stands for code, a literal, a literal with a minus sign in front, or something
else. -/
inductive ExprForm where
  | blockLike
  | range
  | comparison
  | invocation (braced : Bool)
  | literal (text : String)
  | negated (text : String)
  | other
  deriving DecidableEq, Repr

/-- What an expression is with a minus sign in front. -/
def ExprForm.negation : ExprForm → ExprForm
  | .literal text => .negated text
  | _ => .other

/-- An expression. A fixed one starts with an expression that stays as it stands, to which no
attributes can be given. -/
structure ExprText where
  tokens : Tokens
  form : ExprForm
  fixed : Bool

namespace ExprText

/-- An expression of no particular form. -/
def plain (ts : Tokens) : ExprText :=
  ⟨ts, .other, false⟩

/-- The expression with attributes in front. -/
def withAttributes (attributes : Tokens) (e : ExprText) : ExprText :=
  if e.fixed then e else { e with tokens := attributes ++ e.tokens }

/-- Whether a comma must follow where the expression is what a match leads to. -/
def needsComma (e : ExprText) : Bool :=
  e.form ≠ .blockLike

/-- Whether a semicolon must follow where the expression is a statement. -/
def needsSemicolon (e : ExprText) : Bool :=
  match e.form with
  | .blockLike => false
  | .invocation braced => !braced
  | _ => true

/-- Whether the expression ends with a group between braces. -/
def endsInBraces (e : ExprText) : Bool :=
  match e.tokens.getLast? with
  | some (.group .brace _) => true
  | _ => false

end ExprText

/-- How tightly operators bind, the loosest first. -/
inductive Precedence where
  | jump
  | assign
  | range
  | or
  | and
  | binding
  | compare
  | bitOr
  | bitXor
  | bitAnd
  | shift
  | sum
  | product
  | cast
  deriving DecidableEq, Repr

def Precedence.rank : Precedence → Nat
  | .jump => 0
  | .assign => 1
  | .range => 2
  | .or => 3
  | .and => 4
  | .binding => 5
  | .compare => 6
  | .bitOr => 7
  | .bitXor => 8
  | .bitAnd => 9
  | .shift => 10
  | .sum => 11
  | .product => 12
  | .cast => 13

/-! ## Readings that refer to each other -/

/-- The readings of code that may be nested in other code.

A type may go on behind `+` or not. A bound may be a capture of generic parameters, or constant, or
not. An expression may end with the fields of a structure or not: where a block follows, it may not.
`operators` reads on behind an operand, as long as operators bind at least as tightly as the one
given; `statement` reads an expression that ends where a statement does. -/
structure Grammar where
  type (plus : Bool) : Reading TypeText
  bound (capture constant : Bool) : Reading Bound
  pattern : Reading PatternText
  expr (fields : Bool) : Reading ExprText
  operand (fields : Bool) : Reading ExprText
  operators (fields : Bool) (base : Precedence) (left : ExprText) : Reading ExprText
  statement : Reading ExprText
  statements : Reading Tokens
  item : Reading Tokens

namespace Grammar

/-- The trees of a type that may go on behind `+`. -/
def typeTokens (g : Grammar) : Reading Tokens := do
  return (← g.type true).tokens

def exprTokens (g : Grammar) : Reading Tokens := do
  return (← g.expr true).tokens

def boundTokens (g : Grammar) (capture constant : Bool) : Reading Tokens := do
  return (← g.bound capture constant).tokens

/-- The trees of a pattern without alternatives. -/
def patternTokens (g : Grammar) : Reading Tokens := do
  return (← g.pattern).tokens

/-- Statements between braces. -/
def block (g : Grammar) : Reading Tokens :=
  Reading.group .brace g.statements

end Grammar

end ScreenRoutes
