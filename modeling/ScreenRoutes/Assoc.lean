/-!
# Association lists

Pairs in the order of their keys' first appearance; a key put again keeps its place and takes the
new value. `List.lookup` reads them.
-/

namespace ScreenRoutes.Assoc

variable {κ α : Type} [DecidableEq κ]

/-- The list with `key` standing for `value`, in place of what it stood for before. -/
def put (key : κ) (value : α) : List (κ × α) → List (κ × α)
  | [] => [(key, value)]
  | pair :: pairs =>
    if pair.1 = key then (key, value) :: pairs else pair :: put key value pairs

def erase (key : κ) (pairs : List (κ × α)) : List (κ × α) :=
  pairs.filter fun pair => pair.1 ≠ key

end ScreenRoutes.Assoc
