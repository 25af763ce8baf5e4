import ScreenRoutes.Classification
import ScreenRoutes.Expansion.Code

/-!
# Expanding annotations

An annotated function is replaced by the function, without the attributes that give its parameters
defaults, and the expansion behind it. Where something is at fault an error message stands in front
and the expansion is left out.

| here | there |
| --- | --- |
| `annotate` | `expand` |
| `errorTokens` | `with_error` |
| `FunctionItem.expansion` | `generate_items` |
-/

namespace ScreenRoutes

open TokenTree (mark rootPath)

/-- Why no expansion can be given. -/
inductive ExpansionFault where
  | screen (fault : ScreenFault)
  | classification (error : ClassificationError)
  deriving DecidableEq, Repr

def ExpansionFault.message : ExpansionFault → String
  | .screen fault => fault.message
  | .classification error => error.message

/-- A message that stops compilation. -/
def errorTokens (message : String) : Tokens :=
  rootPath ["core", "compile_error"] ++ mark "!" ++ braces (quotedTokens message)

/-- What an annotation leads to. An expansion without names for its traits cannot be written, and
there is no code at all. -/
inductive Annotated where
  | unreadable (fault : ScreenFault) (item : Tokens)
  | noFunction (fault : TokenFault)
  | rejected (fault : ExpansionFault) (function : FunctionItem)
  | expanded (function : FunctionItem) (expansion : Expansion)

/-- The screen's function and declaration, read from what an annotation says and the item below it. -/
def readAnnotated (arguments item : Tokens) :
    Except ScreenFault (ScreenFunction × Declaration) := do
  let route ← readRouteName arguments
  let function ← liftFault (FunctionItem.read item)
  ScreenFunction.read route function

/-- The expansion for a function with the route's name. -/
def FunctionItem.expansion (f : FunctionItem) (route : String) : Except ExpansionFault Expansion := do
  let (function, declaration) ← (ScreenFunction.read route f).mapError .screen
  let screen ← (declaration.classify .ofModules).mapError .classification
  pure ((screen.unit defaultUnitPrefix).expansion function)

/-- What an annotation with the given arguments leads to, above an item. -/
def annotate (arguments item : Tokens) : Annotated :=
  match readRouteName arguments with
  | .error fault => .unreadable fault item
  | .ok route =>
    match FunctionItem.read item with
    | .error fault => .noFunction fault
    | .ok f =>
      match f.expansion route with
      | .error fault => .rejected fault f.withoutDefaults
      | .ok expansion => .expanded f.withoutDefaults expansion

/-- The code that takes the place of the annotated item, if it can be written. -/
def Annotated.tokens? : Annotated → Option Tokens
  | .unreadable fault item => some (errorTokens fault.message ++ item)
  | .noFunction fault => some (errorTokens fault.message)
  | .rejected fault function => some (errorTokens fault.message ++ function.tokens)
  | .expanded function expansion =>
    if expansion.isNameable then some (function.tokens ++ expansion.tokens) else none

end ScreenRoutes
