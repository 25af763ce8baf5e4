import ScreenRoutes.Generation.Basic
import ScreenRoutes.Text.Terminal

/-!
# Log lines

What is told while files are generated: the start and the end, each screen in turn with its
parameters as they are classified, and the faults.

| here | there |
| --- | --- |
| `Parameter.logLine` | what `classify_parameter` logs |
| `Screen.logLine` | what `generate` logs |
| `ManifestScreen.log`, `Manifest.log` | what `process_screen` and `process` log |
-/

namespace ScreenRoutes

open Text

/-- How much a line matters. -/
inductive LogLevel where
  | error
  | warn
  | info
  | debug
  | trace
  deriving DecidableEq, Repr

def LogLevel.name : LogLevel → String
  | .error => "ERROR"
  | .warn => "WARN"
  | .info => "INFO"
  | .debug => "DEBUG"
  | .trace => "TRACE"

def LogLevel.style : LogLevel → Style
  | .error => .red
  | .warn => .yellow
  | .info => .green
  | .debug => .blue
  | .trace => .purple

/-- The level at the start of a line: in colours, the names are aligned at their ends. -/
def LogLevel.lead (colored : Bool) (level : LogLevel) : String :=
  let blanks := if colored then "".pushn ' ' (5 - level.name.length) else ""
  level.style.paint colored (blanks ++ level.name)

/-- The level's place, the most pressing first. -/
def LogLevel.rank : LogLevel → Nat
  | .error => 1
  | .warn => 2
  | .info => 3
  | .debug => 4
  | .trace => 5

/-- The least pressing level of lines that are shown; none where no line is. -/
abbrev LogThreshold := Option LogLevel

/-- The threshold that a setting asks for: a level's name in any case, or its place. Nothing asks
for faults only, and any other word is no level and shows nothing. -/
def LogThreshold.ofSetting (setting : String) : LogThreshold :=
  match String.ofList (setting.toList.map Char.toLower) with
  | "" | "error" | "1" => some .error
  | "warn" | "2" => some .warn
  | "info" | "3" => some .info
  | "debug" | "4" => some .debug
  | "trace" | "5" => some .trace
  | _ => none

/-- A value under a name. -/
structure LogField where
  name : String
  value : String
  deriving DecidableEq, Repr

def LogField.text (colored : Bool) (field : LogField) : String :=
  Style.italic.paint colored field.name ++ Style.dimmed.paint colored "=" ++ field.value

structure LogLine where
  level : LogLevel
  message : String
  fields : List LogField
  deriving DecidableEq, Repr

def LogLine.isShown (threshold : LogThreshold) (line : LogLine) : Bool :=
  threshold.any fun least => line.level.rank ≤ least.rank

/-- The line as text: the level, the message with no power over a terminal, and the fields. -/
def LogLine.text (colored : Bool) (line : LogLine) : String :=
  " ".intercalate
    (line.level.lead colored :: disarmed line.message :: line.fields.map (·.text colored))

/-- A value that may be missing. -/
def optionText (value : Option String) : String :=
  match value with
  | some text => "Some(" ++ text ++ ")"
  | none => "None"

/-- The fields of a role between braces. -/
def fieldsText (fields : String) : String :=
  " \x7b " ++ fields ++ " \x7d"

def Role.logText : Role → String
  | .handle => "NavigationHandle"
  | .string nullable default =>
    "StringArg" ++ fieldsText
      ("nullable: " ++ boolText nullable ++ ", default: " ++ optionText (default.map quoted))
  | .int default => "IntArg" ++ fieldsText ("default: " ++ optionText (default.map intText))
  | .bool default => "BoolArg" ++ fieldsText ("default: " ++ optionText (default.map boolText))

def Parameter.logLine (function : String) (p : Parameter) : LogLine :=
  ⟨.debug, "classified parameter",
    [⟨"function", quoted function⟩, ⟨"parameter", p.name⟩, ⟨"kind", p.role.logText⟩]⟩

/-- The line about a screen whose code is generated. -/
def Screen.logLine (lead : String) (s : Screen) : LogLine :=
  ⟨.debug, "generated code shapes",
    [⟨"unit", unitName lead s.route⟩, ⟨"route", s.pattern⟩]⟩

/-- The lines about a screen and what became of it. -/
def ManifestScreen.log (o : ManifestOptions) (s : ManifestScreen) (outcome : Outcome) :
    List LogLine :=
  let declaration := s.declaration
  let params := (declaration.accepted .ofPackages).map (·.logLine s.function)
  let shapes :=
    match declaration.classify .ofPackages with
    | .ok screen => [screen.logLine o.fileLead]
    | .error _ => []
  let faults :=
    match outcome.result with
    | .ok _ => []
    | .error e => [⟨.error, e.message, [⟨"function", s.function⟩]⟩]
  ⟨.info, "Generate code for `" ++ s.function ++ "`", []⟩ :: params ++ shapes ++ faults

/-- The lines about the manifest's screens. -/
def Manifest.log (m : Manifest) : List LogLine :=
  ⟨.info, "Start process", []⟩ ::
    (m.screens.zip m.outcomes).flatMap (fun (s, outcome) => s.log m.options outcome) ++
    [⟨.info, "Finish process", []⟩]

end ScreenRoutes
