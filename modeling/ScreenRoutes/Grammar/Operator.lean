import ScreenRoutes.Grammar.Pattern

/-!
# Operators

Operators between operands and in front of them, assignments, ranges and casts. An operator takes
what binds more tightly on its right before it is taken itself; comparisons do not follow each other,
and nothing follows a range.
-/

namespace ScreenRoutes

open Reading Tokens

/-- The operators between two operands. Of two that start alike the longer one comes first. -/
def binaryOperators : List (String × Precedence) :=
  [("+=", .assign), ("-=", .assign), ("*=", .assign), ("/=", .assign), ("%=", .assign),
    ("^=", .assign), ("&=", .assign), ("|=", .assign), ("<<=", .assign), (">>=", .assign),
    ("&&", .and), ("||", .or), ("<<", .shift), (">>", .shift), ("==", .compare), ("<=", .compare),
    ("!=", .compare), (">=", .compare), ("+", .sum), ("-", .sum), ("*", .product), ("/", .product),
    ("%", .product), ("^", .bitXor), ("&", .bitAnd), ("|", .bitOr), ("<", .compare),
    (">", .compare)]

def binaryOperator? (ts : Tokens) : Option (String × Precedence) :=
  match ts with
  | .punct _ _ :: _ => binaryOperators.find? fun (m, _) => startsMark m ts
  | _ => none

def startsAssign (ts : Tokens) : Bool :=
  startsMarkNot "=" ["=>"] ts

/-- How tightly what the trees start with binds. -/
def precedenceOf (ts : Tokens) : Precedence :=
  match binaryOperator? ts with
  | some (_, p) => p
  | none =>
    if startsAssign ts then .assign
    else if startsMark ".." ts then .range
    else if startsWord "as" ts then .cast
    else .jump

namespace Grammar

/-! ## Operands -/

/-- Whether what follows an operand takes it from the operator in front: it binds more tightly, or
both are assignments. -/
def takesOperand (p next : Precedence) : Bool :=
  p.rank < next.rank || next = p && p = .assign

/-- Reads on behind an operand, as long as what follows takes it from the operator in front. -/
def operandBehindFor (g : Grammar) (fuel : Nat) (fields : Bool) (p : Precedence) (e : ExprText) :
    Reading ExprText :=
  match fuel with
  | 0 => return e
  | fuel + 1 => do
    let ts ← rest
    let next := precedenceOf ts
    if takesOperand p next then
      let more ← g.operators fields next e
      if (← rest).length < ts.length then g.operandBehindFor fuel fields p more else return more
    else return e

def operandBehind (g : Grammar) (fields : Bool) (p : Precedence) : Reading ExprText := do
  let e ← g.operand fields
  let ts ← rest
  if takesOperand p (precedenceOf ts) then g.operandBehindFor (ts.length + 1) fields p e
  else return e

/-! ## Ranges and casts -/

/-- Whether a range has no end, though its mark would allow one. -/
def endsRange (fields : Bool) (ts : Tokens) : Bool :=
  ts.isEmpty || startsMarkNot "." [".."] ts || !fields && startsGroup .brace ts ||
    startsAnyMark [",", ";", "?", "=>", "=", "+", "/", "%", "^", ">", "<=", "!=", "-=", "*=", "&=",
      "|=", "<<="] ts ||
    startsWord "as" ts

def rangeFrom (g : Grammar) (fields : Bool) : Reading Tokens := do
  let (mark, included) ← rangeMark
  if !included && (← ahead (endsRange fields)) then return mark
  else return mark ++ (← g.operandBehind fields .range).tokens

/-- What must not follow a cast, if it does. -/
def castContinuation? (ts : Tokens) : Option String :=
  if startsMarkNot "." [".."] ts then
    let behind := second ts
    if startsWord "await" behind then some "`.await`"
    else if startsName behind && (startsGroup .paren (third ts) || startsMark "::" (third ts)) then
      some "a method call"
    else some "a field access"
  else if startsMark "?" ts then some "`?`"
  else if startsGroup .bracket ts then some "indexing"
  else if startsGroup .paren ts then some "a function call"
  else none

def castBehind (g : Grammar) : Reading Tokens := do
  let start ← take 1
  let type ← g.type false
  match castContinuation? (← rest) with
  | some how => throw (.continuedCast how)
  | none => return start ++ type.tokens

/-! ## Operators behind an operand -/

/-- Reads on behind the left side of operators that bind at least as tightly as `base`. -/
def readOperatorsFor (g : Grammar) (fuel : Nat) (fields : Bool) (base : Precedence)
    (left : ExprText) : Reading ExprText :=
  match fuel with
  | 0 => return left
  | fuel + 1 => do
    let ts ← rest
    let next := precedenceOf ts
    let goOn (more : Tokens) (form : ExprForm) : Reading ExprText :=
      g.readOperatorsFor fuel fields base ⟨left.tokens ++ more, form, left.fixed⟩
    if left.form = .range || next.rank < base.rank then return left
    else
      match binaryOperator? ts with
      | some (m, _) =>
        if next = .compare && left.form = .comparison then throw .chainedComparison
        else
          let operator ← take m.length
          let right ← g.operandBehind fields next
          goOn (operator ++ right.tokens) (if next = .compare then .comparison else .other)
      | none =>
        match next with
        | .assign =>
          let mark ← take 1
          goOn (mark ++ (← g.operandBehind fields .assign).tokens) .other
        | .range => return ⟨left.tokens ++ (← g.rangeFrom fields), .range, false⟩
        | .cast => goOn (← g.castBehind) .other
        | _ => return left

/-- Reads on behind the left side of operators that bind at least as tightly as `base`. -/
def readOperators (g : Grammar) (fields : Bool) (base : Precedence) (left : ExprText) :
    Reading ExprText := do
  let ts ← rest
  if precedenceOf ts = .jump then return left
  else g.readOperatorsFor (ts.length + 1) fields base left

/-- An operand and the operators behind it. -/
def readExpr (g : Grammar) (fields : Bool) : Reading ExprText := do
  g.operators fields .jump (← g.operand fields)

end Grammar

end ScreenRoutes
