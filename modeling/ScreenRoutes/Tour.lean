import ScreenRoutes.Controller.Basic
import ScreenRoutes.TriggerCall

/-!
# A tour of seven screens

Seven screens that between them have every kind of parameter, registered in one graph. Each notes
what it is called with; `hop` also navigates on, to itself while hops are left and then to the route
that it was given.
-/

namespace ScreenRoutes

inductive TourScreen where
  | home
  | detail
  | profile
  | search
  | settings
  | odd
  | hop
  deriving DecidableEq, Repr

namespace TourScreen

/-- The screens in the order in which they are registered. -/
def all : List TourScreen :=
  [.home, .detail, .profile, .search, .settings, .odd, .hop]

/-- The screen's route name. -/
def name : TourScreen → String
  | .home => "home"
  | .detail => "detail"
  | .profile => "profile"
  | .search => "search"
  | .settings => "settings"
  | .odd => "odd"
  | .hop => "hop"

/-- A handle, a string, a number and a truth value as parameters. -/
private def handle (name : String) : Parameter :=
  ⟨name, .handle, "NavController"⟩

private def string (name : String) (nullable : Bool) (default : Option String) : Parameter :=
  ⟨name, .string nullable default, if nullable then "Option<String>" else "String"⟩

private def int (name : String) (default : Option Int32) : Parameter :=
  ⟨name, .int default, "i32"⟩

private def bool (name : String) (default : Option Bool) : Parameter :=
  ⟨name, .bool default, "bool"⟩

def params : TourScreen → List Parameter
  | .home => []
  | .detail =>
    [string "lang" false none, string "ja" true none, bool "like" none,
      string "default_test" false (some "yes"), handle "nav_controller"]
  | .profile => [handle "nav", int "id" none]
  | .search => [string "scope" true (some "all"), int "page" (some 1)]
  | .settings => [bool "advanced" (some false), handle "nav"]
  | .odd =>
    [handle "first", string "type" false none, string "in" false (some "a&b=c?/%"),
      string "empty" true (some ""), handle "second", int "low" (some (-2147483648)),
      bool "fn" (some true)]
  | .hop => [string "to" false none, int "left" none, handle "nav"]

def screen (t : TourScreen) : Screen :=
  ⟨t.name, t.name ++ "_screen", "", none, t.params⟩

def unit (t : TourScreen) : CodeUnit :=
  t.screen.unit defaultUnitPrefix

end TourScreen

inductive TourNote where
  | shown (screen : TourScreen) (received : List Received) (depth : Nat)
  | hopped (left : Int32) (reply : Reply)

/-- A field of a noted show: a value, the depth of the stack, or that a handle was there. -/
inductive TourField where
  | value (v : Option Value)
  | depth (n : Nat)
  | present

/-- The values among what a screen received. -/
private def values (received : List Received) : List TourField :=
  received.filterMap fun | .value v => some (.value v) | .handle => none

/-- What is noted of a show. -/
def TourScreen.fields (t : TourScreen) (received : List Received) (depth : Nat) : List TourField :=
  match t with
  | .home | .search => values received
  | .detail | .profile | .hop => values received ++ [.depth depth]
  | .settings => values received ++ [.present]
  | .odd =>
    .depth depth :: (received.drop 1).map fun | .value v => .value v | .handle => .present

/-- The notes so far, the latest first. -/
abbrev TourNotes := List TourNote

/-- Where `hop` goes next with what it received. -/
def hopRequest (received : List Received) : Option (Int32 × Request TourScreen) :=
  match received with
  | [.value (some (.string target)), .value (some (.int left)), .handle] =>
    let given (name : String) : Option Value :=
      if name = "to" then some (.string target)
      else if name = "left" then some (.int (left - 1))
      else none
    let route := if 0 < left then TourScreen.hop.unit.trigger.route given else target
    some (left, .navigate route)
  | _ => none

/-- What a screen of the tour does when it is shown. -/
def TourScreen.behave (t : TourScreen) (entry : Entry) : Script TourScreen TourNotes :=
  match t.unit.registration.screen.received? entry.arguments with
  | none => .stop
  | some received =>
    .look fun depth notes =>
      .leave (.shown t received depth :: notes) <|
        match t, hopRequest received with
        | .hop, some (left, request) =>
          .ask request fun reply => .look fun _ notes => .leave (.hopped left reply :: notes) .stop
        | _, _ => .stop

def tourBuilder : GraphBuilder TourScreen :=
  TourScreen.all.foldl (fun b t => b.register t.unit t) .empty

/-- A bound on how deep requests are nested: a hop goes on at most as often as a number of 32 bits
says, and then to a route shorter than its own. -/
def tourDepth (c : Controller TourScreen) (request : Request TourScreen) : Nat :=
  let own :=
    match request with
    | .navigate route => route.length
    | .attach g => (g.start.getD "").length
    | .pop => 0
  Nat.pow 2 32 * (own + (c.stack.map (·.entry.route.length)).foldl max 0 + 2)

def Controller.tour (c : Controller TourScreen) (request : Request TourScreen) :
    Option (Reply × Session TourScreen TourNotes) :=
  (Session.start c []).perform TourScreen.behave (tourDepth c request) request

end ScreenRoutes
