import ScreenRoutes.Assoc
import ScreenRoutes.Value

/-!
# Argument bundles

The decoded arguments of one route, by name.

| here | there |
| --- | --- |
| `insert`, `get?`, `contains`, `size` | `RouteArguments::insert`, `get`, `contains`, `len` |
| `getOf?` | `get_string`, `get_int`, `get_bool` |
-/

namespace ScreenRoutes

/-- Arguments by name, in the order in which the names came in. -/
structure Bundle where
  entries : List (String × Value)
  deriving DecidableEq, Repr

namespace Bundle

/-- The bundle without arguments. -/
def empty : Bundle :=
  ⟨[]⟩

/-- The bundle with an argument added or replaced. -/
def insert (b : Bundle) (name : String) (value : Value) : Bundle :=
  ⟨Assoc.put name value b.entries⟩

def get? (b : Bundle) (name : String) : Option Value :=
  b.entries.lookup name

def contains (b : Bundle) (name : String) : Bool :=
  (b.get? name).isSome

def size (b : Bundle) : Nat :=
  b.entries.length

/-- The argument of a name, if it has the type. -/
def getOf? (b : Bundle) (type : ArgType) (name : String) : Option Value :=
  (b.get? name).filter (·.type == type)

end Bundle

end ScreenRoutes
