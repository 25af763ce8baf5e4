import ScreenRoutes.CommandLine.Arguments
import ScreenRoutes.FileStore.Basic
import ScreenRoutes.Generation.Log

/-!
# Running commands

A run reads the manifest, processes its screens, and reports on each. It writes files only to
generate them, each before its line is reported, and stops at the first file that cannot be
written.

| here | there |
| --- | --- |
| `Manifest.generate`, `check`, `routes` | the three functions `execute` |
| `Manifest.load` | `Manifest::load` |
| `Action.run` | `main` |
| `thresholdFor` | `init_tracing` |
-/

namespace ScreenRoutes

open Text

/-! ## Reports -/

/-- What a run tells: the log, the lines on standard output, and why it failed if it did. -/
structure Report where
  log : List LogLine
  lines : List String
  failure : Option String
  deriving DecidableEq, Repr

/-- The lines as they are printed. -/
def Report.output (r : Report) : String :=
  concat (r.lines.map (· ++ "\n"))

/-- The exit code of a run. -/
def Report.code (r : Report) : Nat :=
  if r.failure.isSome then 1 else 0

/-- The first line of what is printed about a failure. -/
def Report.failureLine (r : Report) : Option String :=
  r.failure.map fun text => "Error: " ++ String.ofList (cut '\n' text.toList).1

def faultLine (colored : Bool) (fault : GenerationFault) : String :=
  "  " ++ Style.red.paint colored "error" ++ ": " ++ fault.message

def screensFailed (outcomes : List Outcome) : Option String :=
  let failed := outcomes.countP (!·.isOk)
  if failed = 0 then none
  else some (toString failed ++ " of " ++ toString outcomes.length ++ " screen(s) failed")

/-! ## Commands -/

def Outcome.checkLine (colored : Bool) (o : Outcome) : String :=
  match o.result with
  | .ok _ => "  " ++ Style.green.paint colored "ok" ++ ": " ++ o.function ++ " (" ++ o.route ++ ")"
  | .error fault => faultLine colored fault

/-- The line about a screen's route. -/
def Outcome.routeLine (colored : Bool) (o : Outcome) : String :=
  o.route ++ " -> " ++
    match o.result with
    | .ok file => file.pattern
    | .error fault => Style.red.paint colored fault.message

/-- The line about a file. -/
def WriteStatus.line (colored : Bool) (path : String) : WriteStatus → String
  | .created => "  " ++ Style.green.paint colored "create" ++ ": " ++ path
  | .updated => "  " ++ Style.cyan.paint colored "update" ++ ": " ++ path
  | .unchanged => "  " ++ Style.dimmed.paint colored "skip" ++ ": " ++ path

section

variable {m : Type → Type} [Monad m]

/-- Writes the files of outcomes below a directory, and gives the lines about them up to the first
file that cannot be written, with its fault. -/
def writeOutcomes (files : FileStore m) (colored : Bool) (out : String) :
    List Outcome → m (List String × Option WriteFault)
  | [] => pure ([], none)
  | o :: outcomes => do
    match o.result with
    | .error fault =>
      let (lines, stop) ← writeOutcomes files colored out outcomes
      pure (faultLine colored fault :: lines, stop)
    | .ok file =>
      let path := joinPath out file.path
      match ← files.writeIfChanged path file.contents with
      | .error fault => pure ([], some fault)
      | .ok status =>
        let (lines, stop) ← writeOutcomes files colored out outcomes
        pure (status.line colored path :: lines, stop)

def Manifest.generate (files : FileStore m) (colored : Bool) (out : String) (manifest : Manifest) :
    m Report := do
  let (lines, stop) ← writeOutcomes files colored out manifest.outcomes
  let failure :=
    match stop with
    | some fault => some fault.message
    | none => screensFailed manifest.outcomes
  pure ⟨manifest.log, lines, failure⟩

/-- Lists the routes of a manifest; a screen at fault is no failure. -/
def Manifest.routes (colored : Bool) (manifest : Manifest) : Report :=
  ⟨manifest.log, manifest.outcomes.map (·.routeLine colored), none⟩

def Manifest.check (colored : Bool) (manifest : Manifest) : Report :=
  let failure := screensFailed manifest.outcomes
  let verdict :=
    if failure.isSome then [] else [Style.greenBold.paint colored "All screens are valid"]
  ⟨manifest.log, manifest.outcomes.map (·.checkLine colored) ++ verdict, failure⟩

def Manifest.load (files : FileStore m) (path : String) : m (Except String Manifest) := do
  match ← files.read path with
  | none => pure (.error ("Failed to read manifest: " ++ path))
  | some text =>
    match Manifest.read? text with
    | none => pure (.error ("Failed to parse manifest: " ++ path))
    | some manifest => pure (.ok manifest)

/-- Does what is asked for with the manifest at a path. -/
def Action.run (files : FileStore m) (colored : Bool) (path : String) (action : Action) :
    m Report := do
  match ← Manifest.load files path with
  | .error message => pure ⟨[], [], some message⟩
  | .ok manifest =>
    match action with
    | .generate out => manifest.generate files colored out
    | .routes => pure (manifest.routes colored)
    | .check => pure (manifest.check colored)

end

/-! ## Settings -/

/-- The threshold of a run: the plea for words on the command line, else the one of the
surroundings. -/
def thresholdFor (verbosity : Nat) (surroundings : LogThreshold) : LogThreshold :=
  match verbosity with
  | 0 => surroundings
  | 1 => some .debug
  | _ => some .trace

/-- The log lines that are shown; a value that breaks its line takes several. -/
def Report.shownLog (colored : Bool) (threshold : LogThreshold) (r : Report) : List String :=
  (r.log.filter (·.isShown threshold)).flatMap fun line =>
    ((line.text colored).toList.splitOn '\n').map String.ofList

/-- What is printed about the program itself. -/
def versionLine : String :=
  "navgen 0.1.0"

end ScreenRoutes
