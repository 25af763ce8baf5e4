import ScreenRoutes.Assoc
import ScreenRoutes.Text.Blank
import ScreenRoutes.Text.Cut

/-!
# Type tables

A table says which spellings of type paths stand for a navigation handle, a string, an integer or a
truth value. Spellings are compared without blanks and without one leading `::`.

| here | there |
| --- | --- |
| `normalPath` | `normalize` |
| `empty`, `insertAll`, `resolve?`, `size` | `KnownTypes::new`, `with`, `resolve`, `len` |
| `ofPackages`, `ofModules` | `KnownTypes::kotlin`, `KnownTypes::rust` |
-/

namespace ScreenRoutes

open Text

/-- The families of types that a screen's parameter may have. -/
inductive TypeClass where
  | handle
  | string
  | int
  | bool
  deriving DecidableEq, Repr

/-- Spellings with their families; no spelling occurs twice. -/
structure TypeTable where
  rows : List (String × TypeClass)
  deriving DecidableEq, Repr

/-- The spelling of a path that the table compares. -/
def normalPath (path : String) : String :=
  let compact := squeeze path.toList
  String.ofList ((after? [':', ':'] compact).getD compact)

namespace TypeTable

/-- The table without spellings. -/
def empty : TypeTable :=
  ⟨[]⟩

/-- The table with one more spelling. -/
def insert (t : TypeTable) (cls : TypeClass) (path : String) : TypeTable :=
  ⟨Assoc.put (normalPath path) cls t.rows⟩

/-- The table with more spellings of one family. -/
def insertAll (t : TypeTable) (cls : TypeClass) (paths : List String) : TypeTable :=
  paths.foldl (·.insert cls) t

/-- The family that a path stands for. -/
def resolve? (t : TypeTable) (path : String) : Option TypeClass :=
  t.rows.lookup (normalPath path)

def size (t : TypeTable) : Nat :=
  t.rows.length

/-- The types of a Compose application's screens, written simply or with their package. -/
def ofPackages : TypeTable :=
  empty
    |>.insertAll .handle ["NavController", "androidx.navigation.NavController"]
    |>.insertAll .string ["String", "kotlin.String"]
    |>.insertAll .int ["Int", "kotlin.Int"]
    |>.insertAll .bool ["Boolean", "kotlin.Boolean"]

/-- The types of annotated functions, written simply or with their module. -/
def ofModules : TypeTable :=
  empty
    |>.insertAll .handle ["NavController", "navgen::NavController"]
    |>.insertAll .string ["String", "std::string::String", "alloc::string::String"]
    |>.insertAll .int ["i32", "std::primitive::i32", "core::primitive::i32"]
    |>.insertAll .bool ["bool", "std::primitive::bool", "core::primitive::bool"]

end TypeTable

end ScreenRoutes
