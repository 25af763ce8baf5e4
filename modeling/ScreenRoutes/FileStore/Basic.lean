import ScreenRoutes.OutputPath

/-!
# File stores

What a run does with files goes through three operations, in any monad. A file is written only
where its contents change, and the directories around it are made first.

| here | there |
| --- | --- |
| `WriteStatus` | `WriteStatus` |
| `writeIfChanged` | `write_if_changed` |
-/

namespace ScreenRoutes

/-- Operations on files by path. Reading gives nothing where there is no text to read; the others
tell whether they succeeded. -/
structure FileStore (m : Type → Type) where
  read : String → m (Option String)
  makeDirs : String → m Bool
  write : String → String → m Bool

inductive WriteStatus where
  | created
  | updated
  | unchanged
  deriving DecidableEq, Repr

/-- Why a file was not written. -/
inductive WriteFault where
  | directory (path : String)
  | file (path : String)
  deriving DecidableEq, Repr

def WriteFault.message : WriteFault → String
  | .directory path => "Cannot create dir " ++ path
  | .file path => "Cannot write " ++ path

namespace FileStore

variable {m : Type → Type} [Monad m]

/-- Makes the directories around a path; a path that no directory is around needs none. -/
def makeParents (files : FileStore m) (path : String) : m (Except WriteFault Unit) :=
  match parentPath? path with
  | none => pure (.ok ())
  | some parent => do
    if ← files.makeDirs parent then pure (.ok ()) else pure (.error (.directory parent))

/-- Writes a file with the directories around it. -/
def writeWithParents (files : FileStore m) (path contents : String) :
    m (Except WriteFault Unit) := do
  match ← files.makeParents path with
  | .error fault => pure (.error fault)
  | .ok () =>
    if ← files.write path contents then pure (.ok ()) else pure (.error (.file path))

/-- Writes a file unless it has the contents already. A file that cannot be read as text counts as
missing. -/
def writeIfChanged (files : FileStore m) (path contents : String) :
    m (Except WriteFault WriteStatus) := do
  match ← files.read path with
  | some old =>
    if old = contents then pure (.ok .unchanged)
    else return (← files.writeWithParents path contents).map fun () => .updated
  | none => return (← files.writeWithParents path contents).map fun () => .created

end FileStore

end ScreenRoutes
