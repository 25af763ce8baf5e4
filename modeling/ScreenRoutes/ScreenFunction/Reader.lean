import ScreenRoutes.Declaration
import ScreenRoutes.FunctionItem.Reader
import ScreenRoutes.ScreenFunction.Default
import ScreenRoutes.Token.Lexer

/-!
# Annotated functions

A function annotated with a route name, in two views: the declaration that is classified, and the
identifiers and types as they are written, which generated code repeats.

| here | there |
| --- | --- |
| `routeText`, `readRouteName` | `RouteArgs::parse` |
| `TypeText.reference` | `type_ref`, `type_text`, `option_inner` |
| `ScreenFunction.read` | `read_screen` |
| `ScreenFunction.param?` | `Screen::param` |
-/

namespace ScreenRoutes

open Reading Tokens

structure ScreenParam where
  ident : String
  type : TypeText

def ScreenParam.name (p : ScreenParam) : String :=
  unraw p.ident

/-- An annotated function as it is written. -/
structure ScreenFunction where
  visibility : Tokens
  function : String
  route : String
  params : List ScreenParam

/-- The parameter of the given name; the first one counts. -/
def ScreenFunction.param? (f : ScreenFunction) (name : String) : Option ScreenParam :=
  f.params.find? (·.name == name)

/-! ## The annotation -/

/-- The key `name` and the mark behind it, which may stand in front of a route's name. -/
def routeKey : Reading Unit := do
  let key ← name
  if key ≠ "name" then throw (.missing "`name = \"route\"`")
  else
    let _ ← mark "="

/-- The route's name in an annotation: a string, or a string assigned to `name`. -/
def routeText : Reading String := do
  let ts ← rest
  if ts.isEmpty then expected "a route name: #[nav_gen(\"route\")]"
  else if startsString ts then string
  else
    routeKey
    string

/-- The route's name in an annotation, which must be all that there is. -/
def readRouteName (ts : Tokens) : Except ScreenFault String := do
  let (route, rest) ← liftFault (front routeText ts)
  if rest.isEmpty then pure route else throw .afterRoute

/-- The identifier of a route without a name. -/
def unnamedRoute : String :=
  "__navgen_unnamed"

/-- The identifier that spells a route's name; raw identifiers spell themselves. -/
def routeIdentifier (route : String) : Except ScreenFault String :=
  if route.isEmpty then .ok unnamedRoute
  else
    match lex? route with
    | some [.ident w] => if isPlainWord w ∧ w = route then .ok w else .error (.routeName route)
    | _ => .error (.routeName route)

/-! ## The signature -/

/-- A type as declared: of an optional one, the type inside is the path. -/
def TypeText.reference (t : TypeText) : TypeRef :=
  match t.inner with
  | some inner => ⟨squeezeTokens inner, true, t.source⟩
  | none => ⟨t.source, false, t.source⟩

def FunctionParam.read (p : FunctionParam) : Except ScreenFault (ScreenParam × DeclaredParam) :=
  match p.form with
  | .receiver _ => .error .method
  | .typed pattern type =>
    match pattern.name with
    | none => .error .pattern
    | some ident => do
      let defaults ← p.defaults.mapM Attribute.defaultValue
      pure (⟨ident, type⟩, ⟨unraw ident, type.reference, defaults⟩)

def ScreenFunction.read (route : String) (f : FunctionItem) :
    Except ScreenFault (ScreenFunction × Declaration) :=
  if !f.signature.generics.isEmpty then .error .generic
  else if f.signature.isAsync then .error .async
  else do
    let params ← f.signature.params.mapM FunctionParam.read
    let ident ← routeIdentifier route
    pure (⟨f.visibility, f.signature.name, ident, params.map (·.1)⟩,
      ⟨"", unraw f.signature.name, route, none, params.map (·.2)⟩)

end ScreenRoutes
