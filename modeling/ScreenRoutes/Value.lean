import ScreenRoutes.Text.Decimal

/-!
# Argument types and values

A route carries arguments of three types. `ArgType.read?` reads the text of one argument and
`Value.text` writes it.

| here | there |
| --- | --- |
| `ArgType`, `declaredName`, `plainName` | `NavType`, `NavType::as_str`, its `Display` |
| `Value`, `Value.type`, `Value.text` | `Literal`, `ArgValue`, `nav_type`, its `Display` |
| `ArgType.read?` | `NavType::parse` |
-/

namespace ScreenRoutes

open Text

inductive ArgType where
  | string
  | int
  | bool
  deriving DecidableEq, Repr

/-- The type's name in a declaration. -/
def ArgType.declaredName : ArgType → String
  | .string => "String"
  | .int => "Int"
  | .bool => "Boolean"

/-- The type's name in a sentence. -/
def ArgType.plainName : ArgType → String
  | .string => "string"
  | .int => "integer"
  | .bool => "boolean"

/-- The type's name as a constant of the navigation framework. -/
def ArgType.constantName : ArgType → String
  | .string => "StringType"
  | .int => "IntType"
  | .bool => "BoolType"

inductive Value where
  | string (s : String)
  | int (n : Int32)
  | bool (b : Bool)
  deriving DecidableEq, Repr

def Value.type : Value → ArgType
  | .string _ => .string
  | .int _ => .int
  | .bool _ => .bool

def boolText (b : Bool) : String :=
  if b then "true" else "false"

def intText (n : Int32) : String :=
  String.ofList (printInt n.toInt)

def Value.text : Value → String
  | .string s => s
  | .int n => intText n
  | .bool b => boolText b

/-- Reads a text as a value of the type: any text is a string, a number has an optional sign and
fits into 32 bits, and a truth value is spelled `true` or `false`. -/
def ArgType.read? (t : ArgType) (text : String) : Option Value :=
  match t with
  | .string => some (.string text)
  | .int => (readInt32? text.toList).map .int
  | .bool =>
    if text = "true" then some (.bool true)
    else if text = "false" then some (.bool false)
    else none

end ScreenRoutes
