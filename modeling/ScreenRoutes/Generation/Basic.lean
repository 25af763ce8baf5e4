import ScreenRoutes.Classification
import ScreenRoutes.Manifest.Basic

/-!
# Generating files

Each screen of a manifest gives one source file or one fault. A screen at fault leaves the others
alone. Of several screens whose files would have one path, the first that can be generated owns it.

| here | there |
| --- | --- |
| `ManifestOptions.render` | `Processor::render` |
| `claim` | `Processor::process_screen` |
| `process` | `Processor::process` |
| `Outcome.isOk` | `Outcome::is_ok` |
-/

namespace ScreenRoutes

structure GeneratedFile where
  path : String
  contents : String
  pattern : String
  source : Option String
  deriving DecidableEq, Repr

/-- Why there is no file for a screen. -/
inductive GenerationFault where
  | classification (error : ClassificationError)
  | duplicateOutput (function path owner : String)
  deriving DecidableEq, Repr

def GenerationFault.message : GenerationFault → String
  | .classification error => error.message
  | .duplicateOutput function path owner =>
    "`" ++ function ++ "` would overwrite `" ++ path ++ "`, already generated for `" ++ owner ++ "`"

/-- What became of a screen. -/
structure Outcome where
  function : String
  route : String
  result : Except GenerationFault GeneratedFile

def Outcome.isOk (o : Outcome) : Bool :=
  match o.result with
  | .ok _ => true
  | .error _ => false

/-- The paths that have owners, by their parts. -/
abbrev Owners := List (List String × String)

def ManifestOptions.render (o : ManifestOptions) (s : ManifestScreen) :
    Except ClassificationError GeneratedFile := do
  let screen ← s.declaration.classify .ofPackages
  let unit := screen.unit o.fileLead
  pure ⟨unit.sourcePath, unit.sourceText o.source, screen.pattern, unit.file⟩

/-- The file for a screen after others, and the owners then. -/
def ManifestOptions.claim (o : ManifestOptions) (owners : Owners) (s : ManifestScreen) :
    Except GenerationFault GeneratedFile × Owners :=
  match o.render s with
  | .error e => (.error (.classification e), owners)
  | .ok file =>
    match owners.lookup (pathParts file.path) with
    | some owner => (.error (.duplicateOutput s.function file.path owner), owners)
    | none => (.ok file, (pathParts file.path, s.function) :: owners)

/-- The outcomes of screens after others. -/
def ManifestOptions.processAfter (o : ManifestOptions) (owners : Owners) :
    List ManifestScreen → List Outcome
  | [] => []
  | s :: ss =>
    let (result, owners) := o.claim owners s
    ⟨s.function, s.route, result⟩ :: o.processAfter owners ss

def ManifestOptions.process (o : ManifestOptions) (screens : List ManifestScreen) : List Outcome :=
  o.processAfter [] screens

def Manifest.outcomes (m : Manifest) : List Outcome :=
  m.options.process m.screens

end ScreenRoutes
