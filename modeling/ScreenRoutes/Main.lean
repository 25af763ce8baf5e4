import ScreenRoutes.CommandLine.Run

/-!
# The command line

Reads the arguments, runs the command on the files of the system, and prints its report.

| here | there |
| --- | --- |
| `main` | `main` |
-/

namespace ScreenRoutes

/-- The result of an action, or nothing where it throws. -/
def attempt {α : Type} (action : IO α) : IO (Option α) := do
  try
    return some (← action)
  catch _ =>
    return none

def systemStore : FileStore IO where
  read path := attempt (IO.FS.readFile path)
  makeDirs path := do
    if path.isEmpty then return true
    return (← attempt (IO.FS.createDirAll path)).isSome
  write path contents := do
    return (← attempt (IO.FS.writeFile path contents)).isSome

/-- The threshold that the surroundings ask for. -/
def surroundingThreshold : IO LogThreshold := do
  match ← IO.getEnv "RUST_LOG" with
  | some setting => return .ofSetting setting
  | none => return some .info

/-- Whether the surroundings want colours: one variable forces them, another forbids them, and
otherwise they are for terminals. -/
def wantsColor : IO Bool := do
  let switchedOn (name : String) : IO (Option Bool) := do
    return (← IO.getEnv name).map (· != "0")
  if (← switchedOn "CLICOLOR_FORCE") = some true then return true
  else if (← switchedOn "NO_COLOR").isSome then return false
  else return (← switchedOn "CLICOLOR").getD true && (← (← IO.getStdout).isTty)

/-- Whether the surroundings leave colours to the log: a variable that says anything forbids
them. -/
def leavesLogColor : IO Bool := do
  return ((← IO.getEnv "NO_COLOR").getD "").isEmpty

def usage : String :=
  "Usage: navgen [-m MANIFEST] [-v] <generate [-o OUT] | routes | check>"

/-- Runs what the arguments ask for, and gives the exit code. -/
def perform (arguments : List String) : IO UInt32 := do
  match Invocation.read arguments with
  | .invalid =>
    IO.eprintln usage
    return 2
  | .help =>
    IO.println usage
    return 0
  | .version =>
    IO.println versionLine
    return 0
  | .run manifest verbosity action =>
    let threshold := thresholdFor verbosity (← surroundingThreshold)
    let report ← action.run systemStore (← wantsColor) manifest
    for line in report.shownLog (← leavesLogColor) threshold do
      IO.eprintln line
    IO.print report.output
    if let some message := report.failure then
      IO.eprintln ("Error: " ++ message)
    return UInt32.ofNat report.code

end ScreenRoutes

def main (arguments : List String) : IO UInt32 :=
  ScreenRoutes.perform arguments
