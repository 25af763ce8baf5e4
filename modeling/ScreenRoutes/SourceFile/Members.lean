import ScreenRoutes.SourceFile.Layout
import ScreenRoutes.Text.Blank

/-!
# Members of a source file

The registration, the trigger and the route constant of a code unit, as lines of a Kotlin file,
each with the names it refers to.

| here | there |
| --- | --- |
| `SourceOptions` | `KotlinOptions` |
| `spellType` | `KotlinFile::type_name` |
| `CallArgument.fragments` | `call_argument` |
| `PathPiece.fragments` | `template_piece` |
| `Registration.lines` | `KotlinFile::registration` |
| `Trigger.lines` | `KotlinFile::trigger` |
| `RouteConstant.lines` | `KotlinFile::route_constant` |
-/

namespace ScreenRoutes

open Text

/-- The packages that generated code refers to, and the text of one level of indentation. -/
structure SourceOptions where
  routesPackage : String
  navigationPackage : String
  composePackage : String
  indent : String
  deriving DecidableEq, Repr

/-- The options where nothing else is asked for. -/
def SourceOptions.standard : SourceOptions where
  routesPackage := "com.star_zero.compose_nav_gen"
  navigationPackage := "androidx.navigation"
  composePackage := "androidx.navigation.compose"
  indent := "  "

def commaSeparated (items : List (List Fragment)) : List Fragment :=
  [Fragment.code ", "].intercalate items

/-! ## Declared types -/

/-- How a declared type is spelled, and the name it refers to. -/
structure SpelledType where
  text : String
  reference : Option Reference
  deriving DecidableEq, Repr

/-- Spells a declared type by its simple name: well-known names come from their packages, a
qualified one from the package it names. -/
def spellType (o : SourceOptions) (source : String) : SpelledType :=
  let source := trim source.toList
  let (base, mark) :=
    match before? '?' source with
    | some base => (trimEnd base, "?")
    | none => (source, "")
  let name := String.ofList base
  if ["String", "Int", "Boolean", "Unit"].contains name then ⟨name ++ mark, some ⟨"kotlin", name⟩⟩
  else if name = "NavController" then ⟨name ++ mark, some ⟨o.navigationPackage, name⟩⟩
  else
    match cutLast? '.' base with
    | some (package, simple) =>
      ⟨String.ofList simple ++ mark, some ⟨String.ofList package, String.ofList simple⟩⟩
    | none => ⟨name ++ mark, none⟩

/-! ## Registration -/

def argumentOptions (a : Argument) : String :=
  "type = NavType." ++ a.type.constantName ++ (if a.nullable then "; nullable = true" else "") ++
    (match a.default with
      | some v => "; defaultValue = " ++ v.literal
      | none => "")

def argumentLine (a : Argument) : SourceLine :=
  ⟨3, [.code ("navArgument(" ++ stringLiteral a.name ++ ") \x7b " ++ argumentOptions a ++ " \x7d,")]⟩

def CallArgument.fragments : CallArgument → List Fragment
  | .handle name => [.name (spellName name)]
  | .extract name type nullable =>
    let key := stringLiteral name
    match type, nullable with
    | .string, true => [.code ("backStackEntry.arguments?.getString(" ++ key ++ ")")]
    | .string, false => [.code ("backStackEntry.arguments!!.getString(" ++ key ++ ")!!")]
    | .int, _ => [.code ("backStackEntry.arguments!!.getInt(" ++ key ++ ")")]
    | .bool, _ => [.code ("backStackEntry.arguments!!.getBoolean(" ++ key ++ ")")]

namespace Registration

def references (o : SourceOptions) (r : Registration) : List Reference :=
  [⟨o.navigationPackage, "NavGraphBuilder"⟩, ⟨o.navigationPackage, "NavController"⟩,
    ⟨"kotlin", "Unit"⟩, ⟨o.composePackage, "composable"⟩, ⟨r.screen.package, r.screen.function⟩] ++
  if r.screen.arguments.isEmpty || r.arguments.isEmpty then []
  else [⟨o.navigationPackage, "navArgument"⟩, ⟨o.navigationPackage, "NavType"⟩]

def openLines (r : Registration) : List SourceLine :=
  let route := stringLiteral r.pattern
  if r.screen.arguments.isEmpty || r.arguments.isEmpty then
    [⟨1, [.code ("composable(" ++ route ++ ") \x7b")]⟩]
  else
    ⟨1, [.code ("composable(" ++ route ++ ",")]⟩ :: ⟨2, [.code "arguments = listOf("]⟩ ::
      r.arguments.map argumentLine ++ [⟨2, [.code ")"]⟩, ⟨1, [.code ") \x7b backStackEntry ->"]⟩]

def callLines (r : Registration) : List SourceLine :=
  let screen := Fragment.name (spellName r.screen.function)
  if r.screen.arguments.isEmpty then [⟨2, [screen, .code "()"]⟩]
  else
    ⟨2, [screen, .code "("]⟩ ::
      r.screen.arguments.map (fun a => ⟨3, a.fragments ++ [.code ","]⟩) ++ [⟨2, [.code ")"]⟩]

def lines (r : Registration) : List SourceLine :=
  let handles := r.handles.map fun p => [Fragment.name (spellName p.name), .code ": NavController"]
  ⟨0, .code "public fun NavGraphBuilder." :: .name (spellName r.name) :: .code "(" ::
      commaSeparated handles ++ [.code "): Unit \x7b"]⟩ ::
    r.openLines ++ r.callLines ++ [⟨1, [.code "\x7d"]⟩, ⟨0, [.code "\x7d"]⟩]

end Registration

/-! ## Trigger -/

/-- A formal parameter of the trigger with its default. -/
def TriggerParam.fragments (o : SourceOptions) (p : TriggerParam) : List Fragment :=
  let default :=
    match p.default with
    | .required => ""
    | .absent => " = null"
    | .literal v => " = " ++ v.literal
  [.name (spellName p.name), .code (": " ++ (spellType o p.source).text ++ default)]

/-- A piece of the route inside a raw template. -/
def PathPiece.fragments : PathPiece → List Fragment
  | .text s => [.code (templateText s)]
  | .value name _ true => [.code "$\x7b", .name (spellName name), .code " ?: \"\"\x7d"]
  | .value name _ false =>
    if needsBraces name then [.code "$\x7b", .name (spellName name), .code "\x7d"]
    else [.code "$", .name name]

def PathPiece.fixed : PathPiece → String
  | .text s => s
  | .value .. => ""

namespace Trigger

def references (o : SourceOptions) (t : Trigger) : List Reference :=
  ⟨o.navigationPackage, "NavController"⟩ :: ⟨"kotlin", "Unit"⟩ ::
    t.params.filterMap fun p => (spellType o p.source).reference

/-- The route as an expression: a quoted literal where there are no parameters, else a raw
template. -/
def routeExpression (t : Trigger) : List Fragment :=
  if t.params.isEmpty then [.code (stringLiteral (concat (t.path.map PathPiece.fixed)))]
  else .code "\"\"\"" :: t.path.flatMap PathPiece.fragments ++ [.code "\"\"\""]

def lines (o : SourceOptions) (t : Trigger) : List SourceLine :=
  [⟨0, .code "public fun NavController." :: .name (spellName t.name) :: .code "(" ::
      commaSeparated (t.params.map (·.fragments o)) ++ [.code "): Unit \x7b"]⟩,
    ⟨1, .code "navigate(" :: t.routeExpression ++ [.code ")"]⟩,
    ⟨0, [.code "\x7d"]⟩]

end Trigger

/-! ## Route constant -/

namespace RouteConstant

def references (o : SourceOptions) : List Reference :=
  [⟨o.routesPackage, "NavGenRoutes"⟩, ⟨"kotlin", "String"⟩]

def lines (c : RouteConstant) : List SourceLine :=
  [⟨0, [.code "public val NavGenRoutes.", .name (spellName c.name), .code ": String"]⟩,
    ⟨1, [.code ("get() = " ++ stringLiteral c.value)]⟩]

end RouteConstant

/-! ## The whole file -/

namespace CodeUnit

def references (o : SourceOptions) (u : CodeUnit) : List Reference :=
  u.registration.references o ++ u.trigger.references o ++ RouteConstant.references o

def sourceFile (o : SourceOptions) (u : CodeUnit) : SourceFile where
  package := u.package
  imports := importsFor u.package (u.references o)
  members := [u.registration.lines, u.trigger.lines o, u.constant.lines]

def sourceText (o : SourceOptions) (u : CodeUnit) : String :=
  (u.sourceFile o).text o.indent

end CodeUnit

end ScreenRoutes
