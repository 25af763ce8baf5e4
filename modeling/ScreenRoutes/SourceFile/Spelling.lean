import ScreenRoutes.CodeUnit
import ScreenRoutes.Text.Alphanumeric

/-!
# Spelling names and literals

Kotlin names that are keywords or hold anything but letters, digits and underscores stand between
back-quotes. A quoted literal escapes what would end it or start an interpolation; a raw template
interpolates a plain name as `$name` and any other as `${...}`.

| here | there |
| --- | --- |
| `isPlainName`, `spellName` | `is_plain_identifier`, `identifier` |
| `needsBraces` | `needs_template_braces` |
| `stringLiteral`, `Value.literal` | `string_literal`, `literal` |
| `templateText` | `template_piece`, for fixed text |
-/

namespace ScreenRoutes

open Text

/-- Keywords that cannot stand bare anywhere. -/
def hardKeywords : List String :=
  ["as", "break", "class", "continue", "do", "else", "false", "for", "fun", "if", "in",
    "interface", "is", "null", "object", "package", "return", "super", "this", "throw", "true",
    "try", "typealias", "typeof", "val", "var", "when", "while"]

/-- Keywords that have a meaning in some places only; declarations avoid them too. -/
def softKeywords : List String :=
  ["by", "catch", "constructor", "delegate", "dynamic", "field", "file", "finally", "get",
    "import", "init", "param", "property", "receiver", "set", "setparam", "value", "where",
    "actual", "abstract", "annotation", "companion", "const", "crossinline", "data", "enum",
    "expect", "external", "final", "infix", "inline", "inner", "internal", "lateinit",
    "noinline", "open", "operator", "out", "override", "private", "protected", "public",
    "reified", "sealed", "suspend", "tailrec", "vararg"]

/-- Whether a bare name may go on with `c`. -/
def isPlainRest (c : Char) : Bool :=
  isAlphanumeric c || c == '_'

/-- Whether a name is a letter or underscore followed by letters, numbers and underscores. -/
def isPlainName (name : String) : Bool :=
  match name.toList with
  | [] => false
  | c :: cs => (isAlphabetic c || c == '_') && cs.all isPlainRest

/-- The name between back-quotes. -/
def backquoted (name : String) : String :=
  "`" ++ name ++ "`"

def spellName (name : String) : String :=
  if isPlainName name && !hardKeywords.contains name && !softKeywords.contains name then name
  else backquoted name

/-- Whether `$name` would not interpolate the name. -/
def needsBraces (name : String) : Bool :=
  !isPlainName name || hardKeywords.contains name

/-- The character interpolated as a character constant, `${'c'}`. -/
def charConstant (c : Char) : List Char :=
  ['$', '\x7b', '\'', c, '\'', '\x7d']

/-- A character inside a quoted literal. -/
def literalChar (c : Char) : List Char :=
  match c with
  | '"' => ['\\', '"']
  | '\\' => ['\\', '\\']
  | '\n' => ['\\', 'n']
  | '\r' => ['\\', 'r']
  | '\t' => ['\\', 't']
  | '\x08' => ['\\', 'b']
  | '$' => charConstant '$'
  | c => [c]

def stringLiteral (s : String) : String :=
  String.ofList ('"' :: s.toList.flatMap literalChar ++ ['"'])

def Value.literal : Value → String
  | .string s => stringLiteral s
  | .int n => intText n
  | .bool b => boolText b

/-- A character inside a raw template. -/
def templateChar (c : Char) : List Char :=
  match c with
  | '$' => charConstant '$'
  | '"' => charConstant '"'
  | c => [c]

/-- Fixed text inside a raw template. -/
def templateText (s : String) : String :=
  String.ofList (s.toList.flatMap templateChar)

end ScreenRoutes
