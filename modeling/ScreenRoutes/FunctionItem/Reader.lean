import ScreenRoutes.FunctionItem.Basic
import ScreenRoutes.Grammar.Depth

/-!
# Reading function items

`FunctionItem.read` takes trees that are one function, and keeps each part in its normal spelling.

| here | there |
| --- | --- |
| `FunctionItem.read` | `parse2` to an `ItemFn` |
-/

namespace ScreenRoutes

open Reading

/-- A function with its attributes in front. -/
def Grammar.functionBehind (g : Grammar) : Reading FunctionItem := do
  let attributes ← g.attributeTokens
  let visibility ← visibility
  let signature ← g.signature false
  let body ← inside .brace (inOrder [g.innerAttributes, g.statements])
  return ⟨attributes, visibility, signature, body⟩

def FunctionItem.read (ts : Tokens) : Except TokenFault FunctionItem :=
  whole (Grammar.ofTokens ts).functionBehind ts

end ScreenRoutes
