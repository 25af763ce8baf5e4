import ScreenRoutes.Screen
import ScreenRoutes.Text.Upper

/-!
# Code units

One unit of code is generated for a screen. It has three members: the registration of the route
with a graph, the trigger that navigates to it, and the constant that holds its pattern. They are
described here without regard to the language in which they are written out.

| here | there |
| --- | --- |
| `unitName` | `UnitNaming::unit_name` |
| `Screen.registration` | `registration_shape` |
| `Screen.trigger` | `trigger_shape` |
| `Role.paramDefault` | `param_default` |
| `addText`, `pathPieces` | `PathBuilder` |
| `Screen.unit` | `generate` |
-/

namespace ScreenRoutes

open Text

/-- A formal parameter with its declared type. -/
structure Formal where
  name : String
  source : String
  deriving DecidableEq, Repr

structure Argument where
  name : String
  type : ArgType
  nullable : Bool
  default : Option Value
  deriving DecidableEq, Repr

/-- What a screen's function is called with: a handle passed on, or a value read from the route. A
value that is not nullable is present. -/
inductive CallArgument where
  | handle (name : String)
  | extract (name : String) (type : ArgType) (nullable : Bool)
  deriving DecidableEq, Repr

structure ScreenCall where
  package : String
  function : String
  arguments : List CallArgument
  deriving DecidableEq, Repr

/-- Registers a route with a graph and shows the screen. -/
structure Registration where
  name : String
  pattern : String
  handles : List Formal
  arguments : List Argument
  screen : ScreenCall
  deriving DecidableEq, Repr

/-- What a trigger does without a value: it insists on one, it sends none, or it sends a literal. -/
inductive ParamDefault where
  | required
  | absent
  | literal (v : Value)
  deriving DecidableEq, Repr

structure TriggerParam where
  name : String
  source : String
  type : ArgType
  nullable : Bool
  default : ParamDefault
  deriving DecidableEq, Repr

/-- A piece of a route with live values; a nullable value that is absent is written as nothing. -/
inductive PathPiece where
  | text (s : String)
  | value (name : String) (type : ArgType) (nullable : Bool)
  deriving DecidableEq, Repr

structure Trigger where
  name : String
  params : List TriggerParam
  path : List PathPiece
  deriving DecidableEq, Repr

/-- Holds the pattern of a route. -/
structure RouteConstant where
  name : String
  value : String
  deriving DecidableEq, Repr

/-- The code generated for one screen. Only the declaration's own file has a part in it. -/
structure CodeUnit where
  name : String
  package : String
  file : Option String
  registration : Registration
  trigger : Trigger
  constant : RouteConstant
  deriving DecidableEq, Repr

/-! ## From a screen -/

/-- The text with its first letter in upper case. -/
def capitalize (s : String) : String :=
  match s.toList with
  | [] => ""
  | c :: cs => String.ofList (upper c ++ cs)

/-- The beginning of a unit's name where nothing else is asked for. -/
def defaultUnitPrefix : String :=
  "NavGen"

def unitName (lead route : String) : String :=
  lead ++ capitalize route

/-- The argument of a destination that a parameter gives rise to. -/
def Parameter.argument? (p : Parameter) : Option Argument :=
  p.role.type?.map fun type => ⟨p.name, type, p.role.isNullable, p.role.default?⟩

/-- What the screen's function is called with for a parameter. -/
def Parameter.callArgument (p : Parameter) : CallArgument :=
  match p.role.type? with
  | none => .handle p.name
  | some type => .extract p.name type p.role.isNullable

/-- A default literal wins over the absence that nullability allows. -/
def Role.paramDefault (r : Role) : ParamDefault :=
  match r.default?, r.isNullable with
  | some v, _ => .literal v
  | none, true => .absent
  | none, false => .required

def Parameter.triggerParam? (p : Parameter) : Option TriggerParam :=
  p.role.type?.map fun type =>
    ⟨p.name, p.source, type, p.role.isNullable, p.role.paramDefault⟩

def Parameter.pathPiece? (p : Parameter) : Option PathPiece :=
  p.role.type?.map fun type => .value p.name type p.role.isNullable

/-- The pieces with text in front, joined to the text they start with. -/
def addText (t : String) : List PathPiece → List PathPiece
  | .text u :: ps => .text (t ++ u) :: ps
  | ps => .text t :: ps

/-- The pieces of a route, with neighbouring texts joined. -/
def pathPieces : List RouteStep → List PathPiece
  | [] => []
  | .text t :: steps => addText t (pathPieces steps)
  | .path p :: steps | .query p :: steps => p.pathPiece?.toList ++ pathPieces steps

namespace Screen

def registration (s : Screen) : Registration where
  name := s.route
  pattern := s.pattern
  handles := s.handles.map fun p => ⟨p.name, p.source⟩
  arguments := s.routable.filterMap Parameter.argument?
  screen := ⟨s.package, s.function, s.params.map Parameter.callArgument⟩

def trigger (s : Screen) : Trigger where
  name := s.route
  params := s.routable.filterMap Parameter.triggerParam?
  path := pathPieces s.walk

/-- The code unit of the screen, its name led in by `lead`. -/
def unit (s : Screen) (lead : String) : CodeUnit where
  name := unitName lead s.route
  package := s.package
  file := s.file
  registration := s.registration
  trigger := s.trigger
  constant := ⟨s.route, s.pattern⟩

end Screen

end ScreenRoutes
