import ScreenRoutes.Token.Fault

/-!
# Faults of annotated functions

Why an annotation or the function below it does not describe a screen.

| here | there |
| --- | --- |
| `ScreenFault` | the errors of `RouteArgs::parse`, `read_screen` and `default_literal` |
-/

namespace ScreenRoutes

inductive ScreenFault where
  | tokens (fault : TokenFault)
  | afterRoute
  | generic
  | async
  | method
  | pattern
  | routeName (name : String)
  | notInteger
  | hugeInteger
  | wideInteger
  | bareDefault (mark : String)
  | assignedDefault (mark : String)
  deriving DecidableEq, Repr

def ScreenFault.message : ScreenFault → String
  | .tokens fault => fault.message
  | .afterRoute => "unexpected tokens after the route name"
  | .generic => "#[nav_gen] screens cannot be generic"
  | .async => "#[nav_gen] screens cannot be async"
  | .method => "#[nav_gen] screens must be free functions"
  | .pattern => "#[nav_gen] screen parameters must be plain identifiers"
  | .routeName name => "route name `" ++ name ++ "` must be a valid Rust identifier"
  | .notInteger => "expected an integer literal"
  | .hugeInteger => "number too large to fit in target type"
  | .wideInteger => "default_int value does not fit in i32"
  | .bareDefault mark =>
    "expected attribute arguments in parentheses: #[" ++ mark ++ "(...)]"
  | .assignedDefault mark => "expected parentheses: #[" ++ mark ++ "(...)]"

/-- A reader of trees that finds screens at fault. -/
def liftFault {α : Type} (result : Except TokenFault α) : Except ScreenFault α :=
  result.mapError .tokens

end ScreenRoutes
