import ScreenRoutes.Bundle
import ScreenRoutes.CodeUnit
import ScreenRoutes.NavigationError
import ScreenRoutes.Pattern.Captures
import ScreenRoutes.Text.Percent
import ScreenRoutes.Text.Quoted

/-!
# Navigation graphs

A graph holds destinations, each a pattern with the arguments it declares and the content it shows.
A route resolves to the first destination that it matches; its captures are decoded and read under
the declared types. The type `κ` of content is left open.

| here | there |
| --- | --- |
| `decodeCaptures`, `readArguments`, `decodeArguments` | `Destination::decode` |
| `Graph.find`, `Graph.resolve` | `NavGraph::find`, `NavGraph::resolve` |
| `add`, `startAt` | `NavGraphBuilder::composable`, `start_destination` |
| `buildDestinations`, `build` | `NavGraphBuilder::build` |
-/

namespace ScreenRoutes

open Text

structure Destination (κ : Type) where
  pattern : Pattern
  arguments : List Argument
  content : κ

/-- A resolved route. -/
structure Entry where
  route : String
  pattern : String
  arguments : Bundle
  deriving DecidableEq, Repr

/-! ## Decoding captures -/

/-- The captures with their texts decoded; the first that is not UTF-8 is blamed. -/
def decodeCaptures (route : String) : Captures → Except NavigationError Captures
  | [] => .ok []
  | (name, raw) :: rest =>
    match decode? raw with
    | none => .error (.invalidArgument route name .string raw)
    | some text => (decodeCaptures route rest).map ((name, text) :: ·)

/-- The text that counts as present: an empty one is as good as none where the argument is
nullable. -/
def Argument.present? (a : Argument) (text : Option String) : Option String :=
  text.filter fun t => !(a.nullable && t.isEmpty)

/-- The value of an argument with the decoded text of its capture; none where it stays absent. -/
def Argument.valueOf (a : Argument) (route : String) (text : Option String) :
    Except NavigationError (Option Value) :=
  match a.present? text with
  | some t =>
    match a.type.read? t with
    | some v => .ok (some v)
    | none => .error (.invalidArgument route a.name a.type t)
  | none =>
    match a.default with
    | some d => .ok (some d)
    | none => if a.nullable then .ok none else .error (.missingArgument route a.name)

/-- Reads the declared arguments in order, each taking its capture, and adds the captures that no
argument declares as strings. -/
def readArguments (route : String) : List Argument → Captures → Bundle →
    Except NavigationError Bundle
  | [], captures, b => .ok (captures.foldl (fun b c => b.insert c.1 (.string c.2)) b)
  | a :: rest, captures, b =>
    match a.valueOf route (captures.lookup a.name) with
    | .error e => .error e
    | .ok none => readArguments route rest (Assoc.erase a.name captures) b
    | .ok (some v) => readArguments route rest (Assoc.erase a.name captures) (b.insert a.name v)

/-- The arguments of a route with the given raw captures. -/
def decodeArguments (arguments : List Argument) (route : String) (captures : Captures) :
    Except NavigationError Bundle :=
  match decodeCaptures route captures with
  | .error e => .error e
  | .ok decoded => readArguments route arguments decoded .empty

/-! ## Graphs -/

/-- Destinations in the order in which they are tried, and the route shown first. -/
structure Graph (κ : Type) where
  destinations : List (Destination κ)
  start : Option String

namespace Graph

variable {κ : Type}

def patterns (g : Graph κ) : List String :=
  g.destinations.map (·.pattern.text)

/-- The first destination that the route matches, and what its placeholders take. -/
def match? (g : Graph κ) (route : String) : Option (Destination κ × Captures) :=
  g.destinations.findSome? fun d => (d.pattern.captures? route).map fun c => (d, c)

/-- The entry of a route and the content to show for it. -/
def find (g : Graph κ) (route : String) : Except NavigationError (Entry × κ) :=
  match g.match? route with
  | none => .error (.routeNotFound route)
  | some (d, captures) =>
    match decodeArguments d.arguments route captures with
    | .error e => .error e
    | .ok b => .ok (⟨route, d.pattern.text, b⟩, d.content)

def resolve (g : Graph κ) (route : String) : Except NavigationError Entry :=
  (g.find route).map (·.1)

/-- The texts between brackets, quoted. -/
def quotedList (texts : List String) : String :=
  "[" ++ Pattern.joined ", " (texts.map quoted) ++ "]"

/-- The graph as a line of a diagnosis. -/
def describe (g : Graph κ) : String :=
  let start :=
    match g.start with
    | some route => "Some(" ++ quoted route ++ ")"
    | none => "None"
  "NavGraph \x7b patterns: " ++ quotedList g.patterns ++ ", start: " ++ start ++ " \x7d"

end Graph

/-! ## Building graphs -/

structure Registered (κ : Type) where
  pattern : String
  arguments : List Argument
  content : κ

/-- Destinations registered since the last graph was built, and the route to be shown first. -/
structure GraphBuilder (κ : Type) where
  pending : List (Registered κ)
  start : Option String

/-- The destinations of what was registered; the first that repeats a pattern among `seen` or has
none that can be read is blamed. -/
def buildDestinations {κ : Type} : (seen : List String) → List (Registered κ) →
    Except NavigationError (List (Destination κ))
  | _, [] => .ok []
  | seen, r :: rest =>
    if r.pattern ∈ seen then .error (.duplicateDestination r.pattern)
    else
      match Pattern.parse r.pattern with
      | .error fault => .error (.invalidPattern r.pattern fault)
      | .ok p =>
        (buildDestinations (r.pattern :: seen) rest).map (⟨p, r.arguments, r.content⟩ :: ·)

namespace GraphBuilder

variable {κ : Type}

/-- The builder without destinations. -/
def empty : GraphBuilder κ :=
  ⟨[], none⟩

/-- The builder with one more destination. -/
def add (b : GraphBuilder κ) (pattern : String) (arguments : List Argument) (content : κ) :
    GraphBuilder κ :=
  { b with pending := b.pending ++ [⟨pattern, arguments, content⟩] }

/-- The builder with another route to be shown first. -/
def startAt (b : GraphBuilder κ) (route : String) : GraphBuilder κ :=
  { b with start := some route }

/-- Builds a graph. The destinations are used up in any case, the route to be shown first only when
a graph comes of them. -/
def build (b : GraphBuilder κ) : Except NavigationError (Graph κ) × GraphBuilder κ :=
  match buildDestinations [] b.pending with
  | .error e => (.error e, ⟨[], b.start⟩)
  | .ok ds => (.ok ⟨ds, b.start⟩, ⟨[], none⟩)

end GraphBuilder

end ScreenRoutes
