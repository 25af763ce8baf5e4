import ScreenRoutes.Text.Cut
import ScreenRoutes.Value

/-!
# Screens

A screen's parameters are navigation handles, which are passed through, or routable arguments. A
routable argument is required where it can be neither absent nor defaulted, and optional otherwise.
Required arguments are segments of the route's path and optional ones entries of its query:
`name/{req1}/{req2}?opt1={opt1}&opt2={opt2}`.

| here | there |
| --- | --- |
| `Role` | `ArgumentKind` |
| `Screen`, `handles` | `RouteSpec`, `navigation_handle_params` |
| `routable`, `required`, `optional` | `routable_params`, `required_params`, `optional_params` |
| `routeWalk` | `walk_route` |
| `RouteStep.template` | `PatternWriter` |
| `routePattern` | `route_pattern` |
-/

namespace ScreenRoutes

open Text

/-- What a parameter is for. Only a string can be absent from a route. -/
inductive Role where
  | handle
  | string (nullable : Bool) (default : Option String)
  | int (default : Option Int32)
  | bool (default : Option Bool)
  deriving DecidableEq, Repr

namespace Role

/-- The type under which a route carries the argument; none for a handle. -/
def type? : Role → Option ArgType
  | .handle => none
  | .string .. => some .string
  | .int .. => some .int
  | .bool .. => some .bool

def isNullable : Role → Bool
  | .string nullable _ => nullable
  | _ => false

/-- The value that stands in for an argument left out. -/
def default? : Role → Option Value
  | .handle => none
  | .string _ d => d.map .string
  | .int d => d.map .int
  | .bool d => d.map .bool

/-- Whether a route carries the argument. -/
def isRoutable (r : Role) : Bool :=
  r.type?.isSome

/-- Whether a route carries the argument in its query. -/
def isOptional (r : Role) : Bool :=
  r.isRoutable && (r.isNullable || r.default?.isSome)

/-- Whether a route carries the argument in its path. -/
def isRequired (r : Role) : Bool :=
  r.isRoutable && !r.isOptional

end Role

/-- A parameter with its role and the text of its declared type. -/
structure Parameter where
  name : String
  role : Role
  source : String
  deriving DecidableEq, Repr

/-- A screen with classified parameters. -/
structure Screen where
  route : String
  function : String
  package : String
  file : Option String
  params : List Parameter
  deriving DecidableEq, Repr

namespace Screen

/-- The navigation handles, in declaration order. -/
def handles (s : Screen) : List Parameter :=
  s.params.filter fun p => !p.role.isRoutable

/-- The routable arguments, in declaration order. -/
def routable (s : Screen) : List Parameter :=
  s.params.filter (·.role.isRoutable)

/-- The arguments carried in the path, in declaration order. -/
def required (s : Screen) : List Parameter :=
  s.params.filter (·.role.isRequired)

/-- The arguments carried in the query, in declaration order. -/
def optional (s : Screen) : List Parameter :=
  s.params.filter (·.role.isOptional)

end Screen

/-! ## Routes -/

/-- A step along a route: fixed text, or the place of an argument. -/
inductive RouteStep where
  | text (s : String)
  | path (p : Parameter)
  | query (p : Parameter)
  deriving DecidableEq, Repr

/-- The steps of the query, the first entry led in by `lead` and the others by `&`. -/
def queryWalk (lead : String) : List Parameter → List RouteStep
  | [] => []
  | p :: ps => .text lead :: .text p.name :: .text "=" :: .query p :: queryWalk "&" ps

/-- The steps of a route: its name, the required arguments, the optional ones. -/
def routeWalk (route : String) (required optional : List Parameter) : List RouteStep :=
  .text route :: (required.flatMap fun p => [.text "/", .path p]) ++ queryWalk "?" optional

/-- A step as a pattern shows it: an argument stands as its name between braces. -/
def RouteStep.template : RouteStep → String
  | .text s => s
  | .path p | .query p => "\x7b" ++ p.name ++ "\x7d"

def routePattern (route : String) (required optional : List Parameter) : String :=
  concat ((routeWalk route required optional).map RouteStep.template)

def Screen.walk (s : Screen) : List RouteStep :=
  routeWalk s.route s.required s.optional

def Screen.pattern (s : Screen) : String :=
  routePattern s.route s.required s.optional

end ScreenRoutes
