import ScreenRoutes.Text.Blank
import ScreenRoutes.Text.Cut
import ScreenRoutes.Value

/-!
# Declarations

A screen is declared as a function with a route name. Each parameter has a type, with nullability
already told apart from the underlying type, and any number of default annotations.

| here | there |
| --- | --- |
| `TypeRef.ofText` | `TypeRef::parse` |
| `DeclaredParam` | `DeclaredParameter` |
| `Declaration` | `Declaration` |
-/

namespace ScreenRoutes

open Text

/-- The type of a declared parameter: its underlying path, whether it is nullable, and its text as
declared. -/
structure TypeRef where
  path : String
  nullable : Bool
  source : String
  deriving DecidableEq, Repr

/-- Reads a type's text: a question mark at its end marks nullability, and blanks around either
part do not count. -/
def TypeRef.ofText (text : String) : TypeRef :=
  let source := trim text.toList
  match before? '?' source with
  | some path => ⟨String.ofList (trimEnd path), true, String.ofList source⟩
  | none => ⟨String.ofList source, false, String.ofList source⟩

/-- A declared parameter with the default annotations attached to it, in order. -/
structure DeclaredParam where
  name : String
  type : TypeRef
  defaults : List Value
  deriving DecidableEq, Repr

structure Declaration where
  package : String
  function : String
  route : String
  file : Option String
  params : List DeclaredParam
  deriving DecidableEq, Repr

end ScreenRoutes
