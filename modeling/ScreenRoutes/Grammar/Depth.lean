import ScreenRoutes.Grammar.Item

/-!
# The grammar of nested code

The readings of the grammar refer to themselves for code that is nested in other code. A reading
enters a few levels of the grammar before it takes a tree, so code has no more levels than some
multiple of its leaves, and reading never runs out of them.
-/

namespace ScreenRoutes

open Reading

namespace Grammar

/-- The grammar of code without any levels. -/
def flat : Grammar where
  type _ := throw .tooDeep
  bound _ _ := throw .tooDeep
  pattern := throw .tooDeep
  expr _ := throw .tooDeep
  operand _ := throw .tooDeep
  operators _ _ _ := throw .tooDeep
  statement := throw .tooDeep
  statements := throw .tooDeep
  item := throw .tooDeep

/-- The grammar of code with the given number of levels. -/
def ofDepth : Nat → Grammar
  | 0 => flat
  | n + 1 =>
    { type := fun plus => (ofDepth n).readType plus
      bound := fun capture constant => (ofDepth n).readBound capture constant
      pattern := fun s => (ofDepth n).readPattern s
      expr := fun fields => (ofDepth n).readExpr fields
      operand := fun fields => (ofDepth n).readOperand fields
      operators := fun fields base left => (ofDepth n).readOperators fields base left
      statement := fun s => (ofDepth n).readStatement s
      statements := fun s => (ofDepth n).readStatements s
      item := fun s => (ofDepth n).readItem s }

/-- The grammar of code that is nested no deeper than the given trees can be. -/
def ofTokens (ts : Tokens) : Grammar :=
  ofDepth (8 * (sizeOfAll ts + 2))

end Grammar

end ScreenRoutes
