import ScreenRoutes.Text.Cut

/-!
# Command-line arguments

Options that every command takes may stand before the command or behind it; where both are given, the
one behind the command counts. An option is given at most once on either side, its value is not
empty, and short options may share one dash.

| here | there |
| --- | --- |
| `Action`, `CommandName` | `Commands` |
| `Given`, `Invocation.read` | `Cli` and how it is parsed |
-/

namespace ScreenRoutes

open Text

/-- What to do with a manifest. -/
inductive Action where
  | generate (out : String)
  | routes
  | check
  deriving DecidableEq, Repr

/-- What the arguments ask for. -/
inductive Invocation where
  | invalid
  | help
  | version
  | run (manifest : String) (verbosity : Nat) (action : Action)
  deriving DecidableEq, Repr

/-- The manifest that is read where no other is named. -/
def defaultManifest : String :=
  "navgen.toml"

/-- The directory that files go to where no other is named. -/
def defaultOut : String :=
  "generated"

inductive CommandName where
  | generate
  | routes
  | check
  deriving DecidableEq, Repr

def CommandName.ofText? : String → Option CommandName
  | "generate" => some .generate
  | "routes" => some .routes
  | "check" => some .check
  | _ => none

inductive ValueOption where
  | manifest
  | out
  deriving DecidableEq, Repr

/-- What was given on one side of the command. -/
structure Given where
  manifest : Option String
  out : Option String
  verbosity : Nat
  deriving DecidableEq, Repr

def Given.nothing : Given :=
  ⟨none, none, 0⟩

/-- What was given, with one more value. -/
def Given.set? (g : Given) (option : ValueOption) (value : String) : Option Given :=
  if value.isEmpty then none
  else
    match option with
    | .manifest => if g.manifest.isSome then none else some { g with manifest := some value }
    | .out => if g.out.isSome then none else some { g with out := some value }

/-- What was given, with one more plea for words. -/
def Given.wordier (g : Given) : Given :=
  { g with verbosity := g.verbosity + 1 }

/-- What one argument comes to: what is given then, an option whose value is to come, or the end of
reading. -/
inductive ArgumentStep where
  | given (g : Given)
  | awaits (option : ValueOption) (g : Given)
  | stop (i : Invocation)

def ArgumentStep.ofValue (g : Given) (option : ValueOption) (value : List Char) : ArgumentStep :=
  match g.set? option (String.ofList value) with
  | some g => .given g
  | none => .stop .invalid

/-- Whether an option that takes a value is known on this side; `command` is none in front of the
command. -/
def ValueOption.isKnown (command : Option CommandName) : ValueOption → Bool
  | .manifest => true
  | .out => command = some .generate

/-- Reads short options behind one dash. A value follows its option directly, or behind `=`, or is
the next argument. -/
def readShort (command : Option CommandName) (g : Given) : List Char → ArgumentStep
  | [] => .given g
  | c :: cs =>
    let valued (option : ValueOption) : ArgumentStep :=
      if !option.isKnown command then .stop .invalid
      else
        match cs with
        | [] => .awaits option g
        | '=' :: value => .ofValue g option value
        | value => .ofValue g option value
    match c with
    | 'v' => readShort command g.wordier cs
    | 'm' => valued .manifest
    | 'o' => valued .out
    | 'h' => .stop .help
    | 'V' => .stop (if command.isNone then .version else .invalid)
    | _ => .stop .invalid

/-- Reads one long option, from behind its dashes on. -/
def readLong (command : Option CommandName) (g : Given) (cs : List Char) : ArgumentStep :=
  let (name, value) := cut '=' cs
  let valued (option : ValueOption) : ArgumentStep :=
    if !option.isKnown command then .stop .invalid
    else
      match value with
      | some value => .ofValue g option value
      | none => .awaits option g
  match String.ofList name, value with
  | "manifest", _ => valued .manifest
  | "out", _ => valued .out
  | "verbose", none => .given g.wordier
  | "help", none => .stop .help
  | "version", none => .stop (if command.isNone then .version else .invalid)
  | _, _ => .stop .invalid

/-- Whether an argument can be the value of the option before it. -/
def isValue (argument : String) : Bool :=
  argument == "-" || argument.toList.head? != some '-'

/-- What the arguments behind a command come to. -/
def readBehind (command : CommandName) (g : Given) : List String → Except Invocation Given
  | [] => .ok g
  | argument :: rest =>
    if argument = "--" then if rest.isEmpty then .ok g else .error .invalid
    else
      let step :=
        match argument.toList with
        | '-' :: '-' :: cs => readLong (some command) g cs
        | '-' :: c :: cs => readShort (some command) g (c :: cs)
        | _ => .stop .invalid
      match step, rest with
      | .given g, rest => readBehind command g rest
      | .awaits option g, value :: rest =>
        if !isValue value then .error .invalid
        else
          match g.set? option value with
          | some g => readBehind command g rest
          | none => .error .invalid
      | .awaits _ _, [] => .error .invalid
      | .stop i, _ => .error i

/-- What is given in front of the command, the command, and the arguments behind it. -/
def readFront (g : Given) : List String → Except Invocation (Given × String × List String)
  | [] => .error .invalid
  | argument :: rest =>
    if argument = "--" then .error .invalid
    else
      let step :=
        match argument.toList with
        | '-' :: '-' :: cs => some (readLong none g cs)
        | '-' :: c :: cs => some (readShort none g (c :: cs))
        | _ => none
      match step, rest with
      | none, rest => .ok (g, argument, rest)
      | some (.given g), rest => readFront g rest
      | some (.awaits option g), value :: rest =>
        if !isValue value then .error .invalid
        else
          match g.set? option value with
          | some g => readFront g rest
          | none => .error .invalid
      | some (.awaits _ _), [] => .error .invalid
      | some (.stop i), _ => .error i

/-- What the arguments ask for about the help on a command. -/
def helpOn : List String → Invocation
  | [] => .help
  | [name] => if name = "help" ∨ (CommandName.ofText? name).isSome then .help else .invalid
  | _ => .invalid

/-- What was given on both sides of a command. -/
def Given.invocation (front behind : Given) (command : CommandName) : Invocation :=
  let manifest := (behind.manifest <|> front.manifest).getD defaultManifest
  let verbosity := if behind.verbosity = 0 then front.verbosity else behind.verbosity
  .run manifest verbosity <|
    match command with
    | .generate => .generate (behind.out.getD defaultOut)
    | .routes => .routes
    | .check => .check

/-- What the arguments ask for. -/
def Invocation.read (arguments : List String) : Invocation :=
  match readFront .nothing arguments with
  | .error i => i
  | .ok (front, name, rest) =>
    if name = "help" then helpOn rest
    else
      match CommandName.ofText? name with
      | none => .invalid
      | some command =>
        match readBehind command .nothing rest with
        | .error i => i
        | .ok behind => front.invocation behind command

end ScreenRoutes
