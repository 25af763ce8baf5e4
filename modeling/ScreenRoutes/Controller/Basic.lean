import ScreenRoutes.Graph

/-!
# Navigation controllers

A controller holds a graph and a stack of entries, the one shown last on top. Content is shown when
its entry comes to the top, and what it does then is a script that may ask the same controller for
more. `Controller.perform` carries a request out with everything nested in it and keeps a history
of what was attached, pushed, dropped and shown.

| here | there |
| --- | --- |
| `Session.navigate` | `NavController::navigate` |
| `Session.pop` | `NavController::pop_back_stack` |
| `Session.serve`, for a graph | `NavController::set_graph` |
| `current?`, `depth` | `current_entry`, `back_stack_len` |
-/

namespace ScreenRoutes

open Text

variable {κ σ : Type}

/-- An entry on the stack with its content. -/
structure Frame (κ : Type) where
  entry : Entry
  content : κ

/-- A graph, if one is attached, and the frames from the top down. -/
structure Controller (κ : Type) where
  graph : Option (Graph κ)
  stack : List (Frame κ)

namespace Controller

/-- The controller without a graph. -/
def empty : Controller κ :=
  ⟨none, []⟩

/-- The entry on top of the stack. -/
def current? (c : Controller κ) : Option Entry :=
  c.stack.head?.map (·.entry)

/-- The number of entries on the stack. -/
def depth (c : Controller κ) : Nat :=
  c.stack.length

/-- The controller as a line of a diagnosis; the stack is shown from the bottom up. -/
def describe (c : Controller κ) : String :=
  let graph :=
    match c.graph with
    | some g => "Some(" ++ g.describe ++ ")"
    | none => "None"
  let routes := c.stack.reverse.map (·.entry.route)
  "NavController \x7b graph: " ++ graph ++ ", back_stack: " ++ Graph.quotedList routes ++ " \x7d"

end Controller

/-! ## Requests and scripts -/

/-- What a controller can be asked for. -/
inductive Request (κ : Type) where
  | attach (g : Graph κ)
  | navigate (route : String)
  | pop

/-- How a request ended. -/
inductive Reply where
  | done
  | failed (e : NavigationError)
  | popped (removed : Bool)
  deriving DecidableEq, Repr

/-- What content does when it is shown: it asks its controller for something and goes on with the
reply, looks at the stack's depth and at the state around it, or changes that state. -/
inductive Script (κ σ : Type) where
  | stop
  | ask (request : Request κ) (next : Reply → Script κ σ)
  | look (next : (depth : Nat) → σ → Script κ σ)
  | leave (state : σ) (next : Script κ σ)

/-- What happened to a controller. -/
inductive Event (κ : Type) where
  | attached (g : Graph κ)
  | pushed (f : Frame κ)
  | dropped
  | shown (f : Frame κ) (stack : List (Frame κ))

/-- A controller, the state around it, and what happened so far, the latest first. -/
structure Session (κ σ : Type) where
  controller : Controller κ
  state : σ
  history : List (Event κ)

namespace Session

/-- A session that has yet to begin. -/
def start (c : Controller κ) (state : σ) : Session κ σ :=
  ⟨c, state, []⟩

/-- The session after `g` was attached, which clears the stack. -/
def attached (s : Session κ σ) (g : Graph κ) : Session κ σ :=
  { s with controller := ⟨some g, []⟩, history := .attached g :: s.history }

def pushed (s : Session κ σ) (f : Frame κ) : Session κ σ :=
  { s with
    controller := { s.controller with stack := f :: s.controller.stack }
    history := .pushed f :: s.history }

/-- The session after the top frame was dropped. -/
def dropped (s : Session κ σ) : Session κ σ :=
  { s with
    controller := { s.controller with stack := s.controller.stack.tail }
    history := .dropped :: s.history }

/-- The session when a frame's content starts to run. -/
def shown (s : Session κ σ) (f : Frame κ) : Session κ σ :=
  { s with history := .shown f s.controller.stack :: s.history }

end Session

/-- Runs a script, given how requests are carried out. -/
def Script.run (perform : Request κ → Session κ σ → Option (Reply × Session κ σ)) :
    Script κ σ → Session κ σ → Option (Session κ σ)
  | .stop, s => some s
  | .ask request next, s =>
    match perform request s with
    | none => none
    | some (reply, s) => (next reply).run perform s
  | .look next, s => (next s.controller.depth s.state).run perform s
  | .leave state next, s => next.run perform { s with state := state }

/-! ## Carrying out requests -/

/-- How a frame's content is run to its end, if it comes to one. -/
abbrev Display (κ σ : Type) := Frame κ → Session κ σ → Option (Session κ σ)

namespace Session

/-- Resolves a route, pushes its frame and shows it. A route that does not resolve changes
nothing. -/
def navigate (display : Display κ σ) (route : String) (s : Session κ σ) :
    Option (Reply × Session κ σ) :=
  match s.controller.graph with
  | none => some (.failed .graphNotSet, s)
  | some g =>
    match g.find route with
    | .error e => some (.failed e, s)
    | .ok (entry, content) =>
      let f : Frame κ := ⟨entry, content⟩
      (display f ((s.pushed f).shown f)).map fun s => (.done, s)

/-- Drops the top frame and shows the one below it. -/
def pop (display : Display κ σ) (s : Session κ σ) : Option (Reply × Session κ σ) :=
  match s.controller.stack with
  | [] => some (.popped false, s)
  | [_] => some (.popped true, s.dropped)
  | _ :: f :: _ => (display f (s.dropped.shown f)).map fun s => (.popped true, s)

/-- Carries out one request, given how content is run. -/
def serve (display : Display κ σ) (request : Request κ) (s : Session κ σ) :
    Option (Reply × Session κ σ) :=
  match request with
  | .navigate route => s.navigate display route
  | .pop => s.pop display
  | .attach g =>
    match g.start with
    | some route => (s.attached g).navigate display route
    | none => some (.done, s.attached g)

/-- Carries out one request, with requests nested in content to a depth below `fuel`; none if that
is not enough. -/
def perform (behave : κ → Entry → Script κ σ) :
    (fuel : Nat) → Request κ → Session κ σ → Option (Reply × Session κ σ)
  | 0, _, _ => none
  | fuel + 1, request, s =>
    s.serve (fun f s => (behave f.content f.entry).run (perform behave fuel) s) request

end Session

/-! ## The flat machine -/

/-- A controller replayed from a history: attaching clears the stack, pushing and dropping move its
top, and showing changes nothing. -/
def Controller.replay (c : Controller κ) : List (Event κ) → Controller κ
  | [] => c
  | .attached g :: events => replay ⟨some g, []⟩ events
  | .pushed f :: events => replay { c with stack := f :: c.stack } events
  | .dropped :: events => replay { c with stack := c.stack.tail } events
  | .shown .. :: events => replay c events

end ScreenRoutes
