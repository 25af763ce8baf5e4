import ScreenRoutes.Controller.Basic

/-!
# Shared controllers

Several names may hold one controller. A strong name keeps its controller alive; a weak name does
not, and leads to nothing once the last strong name is gone.

| here | there |
| --- | --- |
| `create`, `share?`, `drop?` | `NavController::new`, its clones and their end |
| `weaken?` | `NavController::downgrade` |
| `upgrade?` | `WeakNavController::upgrade` |
-/

namespace ScreenRoutes

variable {κ : Type}

/-- Controllers in the order in which they were made, strong names and weak names with the places
of theirs. -/
structure Handles (κ : Type) where
  controllers : List (Controller κ)
  strong : List (String × Nat)
  weak : List (String × Option Nat)

namespace Handles

def empty : Handles κ :=
  ⟨[], [], []⟩

/-- The controller that a strong name holds. -/
def get? (h : Handles κ) (name : String) : Option (Controller κ) :=
  (h.strong.lookup name).bind fun place => h.controllers[place]?

/-- A new controller under a strong name. -/
def create (h : Handles κ) (name : String) : Handles κ :=
  { h with
    controllers := h.controllers ++ [.empty]
    strong := Assoc.put name h.controllers.length h.strong }

/-- Another strong name for the controller of `name`. -/
def share? (h : Handles κ) (name second : String) : Option (Handles κ) :=
  (h.strong.lookup name).map fun place => { h with strong := Assoc.put second place h.strong }

/-- The names without a strong one. -/
def drop? (h : Handles κ) (name : String) : Option (Handles κ) :=
  (h.strong.lookup name).map fun _ => { h with strong := Assoc.erase name h.strong }

/-- A weak name for the controller of `name`. -/
def weaken? (h : Handles κ) (name second : String) : Option (Handles κ) :=
  (h.strong.lookup name).map fun place => { h with weak := Assoc.put second (some place) h.weak }

/-- A weak name that never led anywhere. -/
def addDangling (h : Handles κ) (name : String) : Handles κ :=
  { h with weak := Assoc.put name none h.weak }

/-- Whether some strong name holds the controller at a place. -/
def isAlive (h : Handles κ) (place : Nat) : Bool :=
  h.strong.any (·.2 == place)

/-- The place that a weak name leads to, if its controller is alive. -/
def follow (h : Handles κ) (place : Option Nat) : Option Nat :=
  place.filter h.isAlive

/-- A strong name for the controller that a weak one leads to, and whether it leads to one; none if
there is no such weak name. -/
def upgrade? (h : Handles κ) (name second : String) : Option (Bool × Handles κ) :=
  (h.weak.lookup name).map fun place =>
    match h.follow place with
    | some p => (true, { h with strong := Assoc.put second p h.strong })
    | none => (false, h)

/-- The handle of a name as a line of a diagnosis, strong before weak. -/
def describe? (h : Handles κ) (name : String) : Option String :=
  match h.get? name with
  | some c => some c.describe
  | none =>
    (h.weak.lookup name).map fun place =>
      "WeakNavController \x7b alive: " ++ boolText (h.follow place).isSome ++ " \x7d"

/-- The controller of a strong name replaced by what has become of it. -/
def update (h : Handles κ) (name : String) (c : Controller κ) : Handles κ :=
  match h.strong.lookup name with
  | some place => { h with controllers := h.controllers.set place c }
  | none => h

end Handles

end ScreenRoutes
