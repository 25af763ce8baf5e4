import ScreenRoutes.Declaration
import ScreenRoutes.Screen
import ScreenRoutes.TypeTable

/-!
# Classification

A declaration becomes a screen when its route has a name and every parameter has a name of its own
and a supported type. The family of the underlying type decides the role; nullability is read
separately. The first parameter that does not qualify is blamed.

| here | there |
| --- | --- |
| `DeclaredParam.classify` | `classify_parameter`, `reject_nullable`, `declared_default` |
| `classifyParams`, `Declaration.classify` | `classify` |
| `ClassificationError` | `ClassificationError` and its texts |
-/

namespace ScreenRoutes

/-- Why a declaration is no screen. -/
inductive ClassificationError where
  | unsupportedType (function param type : String)
  | nullableNotAllowed (function param : String) (type : ArgType)
  | emptyRouteName (function : String)
  | defaultKindMismatch (function param : String) (expected found : ArgType)
  | duplicateParameter (function param : String)
  deriving DecidableEq, Repr

namespace ClassificationError

/-- The function whose declaration was refused. -/
def function : ClassificationError → String
  | .unsupportedType f _ _ | .nullableNotAllowed f _ _ | .emptyRouteName f
  | .defaultKindMismatch f _ _ _ | .duplicateParameter f _ => f

/-- The parameter that disqualified the declaration, if one did. -/
def param? : ClassificationError → Option String
  | .emptyRouteName _ => none
  | .unsupportedType _ p _ | .nullableNotAllowed _ p _ | .defaultKindMismatch _ p _ _
  | .duplicateParameter _ p => some p

def message : ClassificationError → String
  | .unsupportedType f p t =>
    "Not supported argument type `" ++ t ++ "` for parameter `" ++ p ++ "` in `" ++ f ++ "`"
  | .nullableNotAllowed f p t =>
    t.declaredName ++ " argument `" ++ p ++ "` in `" ++ f ++ "` does not allow nullable"
  | .emptyRouteName f => "Route name for `" ++ f ++ "` must not be empty"
  | .defaultKindMismatch f p expected found =>
    found.declaredName ++ " default value on " ++ expected.declaredName ++ " argument `" ++ p ++
      "` in `" ++ f ++ "`"
  | .duplicateParameter f p =>
    "Parameter `" ++ p ++ "` is declared more than once in `" ++ f ++ "`"

end ClassificationError

/-- The role of a parameter of a routable type with its first default annotation. -/
def TypeClass.role (cls : TypeClass) (nullable : Bool) (default : Option Value) : Role :=
  match cls, default with
  | .handle, _ => .handle
  | .string, some (.string s) => .string nullable (some s)
  | .string, _ => .string nullable none
  | .int, some (.int n) => .int (some n)
  | .int, _ => .int none
  | .bool, some (.bool b) => .bool (some b)
  | .bool, _ => .bool none

/-- The type of the arguments in a family. -/
def TypeClass.argType? : TypeClass → Option ArgType
  | .handle => none
  | .string => some .string
  | .int => some .int
  | .bool => some .bool

namespace DeclaredParam

/-- The role of a parameter, judged on its own. A handle's nullability and defaults do not count;
numbers and truth values cannot be nullable; and every default has the argument's type. -/
def classify (function : String) (table : TypeTable) (p : DeclaredParam) :
    Except ClassificationError Parameter :=
  match table.resolve? p.type.path with
  | none => .error (.unsupportedType function p.name p.type.source)
  | some cls =>
    match cls.argType? with
    | none => .ok ⟨p.name, .handle, p.type.source⟩
    | some type =>
      if type ≠ .string ∧ p.type.nullable then .error (.nullableNotAllowed function p.name type)
      else
        match p.defaults.find? (·.type != type) with
        | some d => .error (.defaultKindMismatch function p.name type d.type)
        | none => .ok ⟨p.name, cls.role p.type.nullable p.defaults.head?, p.type.source⟩

end DeclaredParam

/-- The parameters before the first one that does not qualify, and what is wrong with that one.
`seen` holds the names before these. -/
def classifyParams (function : String) (table : TypeTable) :
    (seen : List String) → List DeclaredParam → List Parameter × Option ClassificationError
  | _, [] => ([], none)
  | seen, p :: ps =>
    if p.name ∈ seen then ([], some (.duplicateParameter function p.name))
    else
      match p.classify function table with
      | .error e => ([], some e)
      | .ok q =>
        let (qs, e) := classifyParams function table (p.name :: seen) ps
        (q :: qs, e)

namespace Declaration

/-- The parameters before the first one that does not qualify; none where the route has no name. -/
def accepted (d : Declaration) (table : TypeTable) : List Parameter :=
  if d.route.isEmpty then [] else (classifyParams d.function table [] d.params).1

def classify (d : Declaration) (table : TypeTable) : Except ClassificationError Screen :=
  if d.route.isEmpty then .error (.emptyRouteName d.function)
  else
    match classifyParams d.function table [] d.params with
    | (_, some e) => .error e
    | (params, none) => .ok ⟨d.route, d.function, d.package, d.file, params⟩

end Declaration

end ScreenRoutes
