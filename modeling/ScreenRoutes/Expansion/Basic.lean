import ScreenRoutes.CodeUnit
import ScreenRoutes.ScreenFunction.Reader

/-!
# Expansions

What stands beside an annotated function: three traits, each with one method and one implementation.
The first registers the screen with a graph, the second navigates to it, and the third holds its
pattern. A code unit says what they do, and the function lends the identifiers and types; a name of
the unit that is no parameter of the function leaves nothing behind.

| here | there |
| --- | --- |
| `Registration.method` | `registration` |
| `Trigger.method` | `trigger` |
| `CodeUnit.expansion` | `render_unit`, before quoting |
-/

namespace ScreenRoutes

/-- An argument in the call of the screen's function. -/
inductive CallExpression where
  | nothing
  | handle (ident : String) (optional : Bool)
  | extract (name : String) (type : ArgType) (optional : Bool)

/-- The method that registers a screen. Inside it, each handle is weakened first, and regained when
the screen is shown. -/
structure GraphMethod where
  pattern : String
  handles : List String
  arguments : List Argument
  call : List CallExpression

structure NavigateFormal where
  ident : String
  type : TypeText
  optional : Bool

/-- A default value that takes the place of an absent argument. -/
structure DefaultBinding where
  ident : String
  value : Value

/-- A piece put behind the route. -/
inductive Push where
  | nothing
  | text (s : String)
  | encoded (ident : String)
  | encodedIfPresent (ident : String)
  | printed (ident : String)

/-- The method that navigates to a screen: defaults first, then one piece after the other. -/
structure NavigateMethod where
  formals : List NavigateFormal
  bindings : List DefaultBinding
  pushes : List Push
  mayBeEmpty : Bool

/-- The code beside an annotated function. -/
structure Expansion where
  visibility : Tokens
  function : String
  method : String
  unit : String
  route : String
  graph : GraphMethod
  navigate : NavigateMethod
  pattern : String

/-! ## From a code unit -/

def CallArgument.expression (f : ScreenFunction) : CallArgument → CallExpression
  | .handle name =>
    match f.param? name with
    | some p => .handle p.ident p.type.inner.isSome
    | none => .nothing
  | .extract name type nullable => .extract name type (type = .string && nullable)

def Registration.method (f : ScreenFunction) (r : Registration) : GraphMethod where
  pattern := r.pattern
  handles := r.handles.filterMap fun h => (f.param? h.name).map (·.ident)
  arguments := r.arguments
  call := r.screen.arguments.map (·.expression f)

/-- A trigger's parameters with those of the function that they are named for. -/
def Trigger.namedParams (f : ScreenFunction) (t : Trigger) : List (TriggerParam × ScreenParam) :=
  t.params.filterMap fun p => (f.param? p.name).map fun q => (p, q)

/-- The literal that stands in for an absent argument. -/
def ParamDefault.literal? : ParamDefault → Option Value
  | .literal v => some v
  | .required | .absent => none

/-- A formal parameter; one that has a default may be left out, whatever its type. -/
def TriggerParam.formal (p : TriggerParam) (q : ScreenParam) : NavigateFormal where
  ident := q.ident
  type := q.type
  optional := p.default.literal?.isSome && !p.nullable

/-- What a piece of the path puts behind the route. -/
def PathPiece.push (params : List (TriggerParam × ScreenParam)) : PathPiece → Push
  | .text s => .text s
  | .value name type _ =>
    match params.find? fun (p, _) => p.name == name with
    | none => .nothing
    | some (p, q) =>
      match type, p.default with
      | .string, .absent => .encodedIfPresent q.ident
      | .string, _ => .encoded q.ident
      | _, _ => .printed q.ident

def Trigger.method (f : ScreenFunction) (t : Trigger) : NavigateMethod :=
  let params := t.namedParams f
  { formals := params.map fun (p, q) => p.formal q
    bindings := params.filterMap fun (p, q) => p.default.literal?.map fun v => ⟨q.ident, v⟩
    pushes := t.path.map (·.push params)
    mayBeEmpty := params.any fun (p, _) => p.type = .string && p.default = .absent }

def CodeUnit.expansion (u : CodeUnit) (f : ScreenFunction) : Expansion where
  visibility := f.visibility
  function := f.function
  method := f.route
  unit := u.name
  route := u.constant.name
  graph := u.registration.method f
  navigate := u.trigger.method f
  pattern := u.constant.value

namespace Expansion

def traits (e : Expansion) : List String :=
  [e.unit ++ "Graph", e.unit ++ "Navigate", e.unit ++ "Route"]

/-- Whether the traits can be named so. -/
def isNameable (e : Expansion) : Bool :=
  e.traits.all fun name => Text.isIdentifier (unraw name).toList

end Expansion

end ScreenRoutes
