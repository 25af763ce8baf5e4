import ScreenRoutes.CodeUnit
import ScreenRoutes.Bundle
import ScreenRoutes.Graph

/-!
# Calling a trigger

The route that a trigger navigates to when it is called with values, and the values that a screen
is called with for a resolved route.

| here | there |
| --- | --- |
| `Trigger.route` | what the method that `trigger` emits pushes |
| `ScreenCall.received?` | what the closure that `registration` emits passes on |
| `Value.sent` | `encode` |
-/

namespace ScreenRoutes

open Text

/-- A value as a route carries it: a string percent-encoded, a number or truth value as it is. -/
def Value.sent : Value → String
  | .string s => encode s
  | v => v.text

/-- The value that a parameter sends: the caller's, or else the default. -/
def TriggerParam.value? (p : TriggerParam) (given : Option Value) : Option Value :=
  match p.default with
  | .literal d => some (given.getD d)
  | _ => given

/-- What stands in the route for a piece of the path. -/
def Trigger.sentPiece (t : Trigger) (given : String → Option Value) : PathPiece → String
  | .text s => s
  | .value name _ _ =>
    match (t.params.find? (·.name == name)).bind fun p => p.value? (given name) with
    | some v => v.sent
    | none => ""

/-- The route for a call with the given values; a value left out is its default, or absent. -/
def Trigger.route (t : Trigger) (given : String → Option Value) : String :=
  concat (t.path.map (t.sentPiece given))

/-- What a screen's function receives in the place of one argument. -/
inductive Received where
  | handle
  | value (v : Option Value)
  deriving DecidableEq, Repr

/-- What a screen receives for an argument; none where a value that has to be there is not. -/
def CallArgument.received? (a : CallArgument) (b : Bundle) : Option Received :=
  match a with
  | .handle _ => some .handle
  | .extract name type nullable =>
    match b.getOf? type name with
    | some v => some (.value (some v))
    | none => if nullable then some (.value none) else none

def ScreenCall.received? (c : ScreenCall) (b : Bundle) : Option (List Received) :=
  c.arguments.mapM (·.received? b)

/-- The builder with the unit's destination. -/
def GraphBuilder.register {κ : Type} (b : GraphBuilder κ) (u : CodeUnit) (content : κ) :
    GraphBuilder κ :=
  b.add u.registration.pattern u.registration.arguments content

end ScreenRoutes
