import ScreenRoutes.Assoc
import ScreenRoutes.FileStore.Basic
import ScreenRoutes.Text.Percent

/-!
# A disk in memory

Directories and files in a tree, and one directory at which relative paths start. A path is followed
part by part: dots stay, two dots go up as far as the root, and a name goes into the directory of
that name. What a path leads to may be missing, which is what makes directories worth making, or out
of reach: behind a file, or under a name that is too long.
-/

namespace ScreenRoutes

open Text

/-- What stands on a disk: a file, or a directory with what is in it by name. -/
inductive DiskNode where
  | file (bytes : List UInt8)
  | directory (entries : List (String × DiskNode))

abbrev DiskEntries := List (String × DiskNode)

/-- A directory, and on the way up from it its name in the directory around it, what is in that one,
and so on. -/
structure Spot where
  entries : DiskEntries
  above : List (String × DiskEntries)

/-- Why a path leads nowhere. -/
inductive PathFault where
  | missing
  | unreachable
  deriving DecidableEq, Repr

/-- The greatest number of bytes in a name. -/
def nameLimit : Nat :=
  255

/-- The greatest number of bytes in a path. -/
def pathLimit : Nat :=
  4095

namespace Spot

/-- What is in the root, given what is in a directory and on the way up from it. -/
def rootEntries (entries : DiskEntries) : List (String × DiskEntries) → DiskEntries
  | [] => entries
  | (name, around) :: above => rootEntries (Assoc.put name (.directory entries) around) above

def root (s : Spot) : DiskEntries :=
  rootEntries s.entries s.above

/-- The directory around this one; nothing is around the root. -/
def up (s : Spot) : Spot :=
  match s.above with
  | [] => s
  | (name, around) :: above => ⟨Assoc.put name (.directory s.entries) around, above⟩

/-- What a name that is not there makes of a path. -/
def absence (name : String) : PathFault :=
  if nameLimit < name.utf8ByteSize then .unreachable else .missing

/-- The directory that a part of a path leads to. -/
def enter (s : Spot) (part : String) : Except PathFault Spot :=
  if isIdlePart part then .ok s
  else if part = ".." then .ok s.up
  else
    match s.entries.lookup part with
    | some (.directory entries) => .ok ⟨entries, (part, s.entries) :: s.above⟩
    | some (.file _) => .error .unreachable
    | none => .error (absence part)

end Spot

/-- A disk: what is in its root, and the way to the directory at which relative paths start. -/
structure Disk where
  root : DiskEntries
  home : List String

/-- A path: whether it starts at the root, and its parts. -/
structure DiskPath where
  rooted : Bool
  parts : List String

namespace DiskPath

/-- The path that a text stands for, if it is not too long and has no NUL. -/
def ofText? (path : String) : Option DiskPath :=
  if pathLimit < path.utf8ByteSize || path.toList.contains '\x00' then none
  else
    match path.toList with
    | '/' :: cs => some ⟨true, splitPath cs⟩
    | cs => some ⟨false, splitPath cs⟩

/-- The path of the directory around this one. -/
def parent? (p : DiskPath) : Option DiskPath :=
  (parentParts? p.rooted p.parts).map fun parts => { p with parts := parts }

def isEmpty (p : DiskPath) : Bool :=
  !p.rooted && p.parts.all (·.isEmpty)

def endsInSlash (p : DiskPath) : Bool :=
  p.parts.getLast?.any (·.isEmpty)

/-- The parts that lead to a directory, and the name within it, unless the path ends with dots. -/
def named (p : DiskPath) : List String × Option String :=
  let parts := p.parts.filter (!·.isEmpty)
  match parts.getLast? with
  | none => ([], none)
  | some name =>
    if name = "." || name = ".." then (parts, none) else (parts.dropLast, some name)

end DiskPath

namespace Disk

/-- The disk on which nothing stands but the directory at which relative paths start. -/
def empty : Disk :=
  ⟨[("home", .directory [("work", .directory [])])], ["home", "work"]⟩

/-! ## Following paths -/

/-- The directory that parts lead to. -/
def follow (d : Disk) (rooted : Bool) (parts : List String) : Except PathFault Spot :=
  ((if rooted then [] else d.home) ++ parts).foldlM Spot.enter ⟨d.root, []⟩

/-- The disk after something in one directory was put in its place. -/
def put (d : Disk) (s : Spot) (name : String) (node : DiskNode) : Disk :=
  { d with root := Spot.root { s with entries := Assoc.put name node s.entries } }

/-- The directory around what a path names, and its name there; the path must not end with dots or
with a slash. -/
def place? (d : Disk) (path : String) : Option (Spot × String) := do
  let p ← DiskPath.ofText? path
  match p.named with
  | (front, some name) =>
    if p.endsInSlash then none
    else
      match d.follow p.rooted front with
      | .ok s => some (s, name)
      | .error _ => none
  | (_, none) => none

/-! ## Files -/

def bytes? (d : Disk) (path : String) : Option (List UInt8) := do
  let (s, name) ← d.place? path
  match s.entries.lookup name with
  | some (.file bytes) => some bytes
  | _ => none

def read? (d : Disk) (path : String) : Option String := do
  String.ofList <$> utf8Decode? (← d.bytes? path)

def writeBytes? (d : Disk) (path : String) (bytes : List UInt8) : Option Disk := do
  let (s, name) ← d.place? path
  match s.entries.lookup name with
  | some (.directory _) => none
  | some (.file _) => some (d.put s name (.file bytes))
  | none =>
    match Spot.absence name with
    | .missing => some (d.put s name (.file bytes))
    | .unreachable => none

/-- The disk with a file's text. -/
def write? (d : Disk) (path contents : String) : Option Disk :=
  d.writeBytes? path (contents.toList.flatMap String.utf8EncodeChar)

/-! ## Directories -/

/-- What making one directory comes to: a disk with it, something that was there before, or a
fault. -/
inductive Made where
  | new (disk : Disk)
  | present (isDirectory : Bool)
  | fault (fault : PathFault)

/-- Makes the directory of a path within the one around it. -/
def makeDir (d : Disk) (p : DiskPath) : Made :=
  let (front, name) := p.named
  match d.follow p.rooted front with
  | .error fault => .fault fault
  | .ok s =>
    match name with
    | none => .present true
    | some name =>
      match s.entries.lookup name with
      | some (.directory _) => .present true
      | some (.file _) => .present false
      | none =>
        match Spot.absence name with
        | .missing => .new (d.put s name (.directory []))
        | .unreachable => .fault .unreachable

/-- Makes the directory of a path and those around it as far as they are missing, `fuel` of them at
most, and tells whether it is there. Those that were made stay even if it is not. -/
def makeDirsFor (d : Disk) (fuel : Nat) (p : DiskPath) : Disk × Bool :=
  match fuel with
  | 0 => (d, false)
  | fuel + 1 =>
    if p.isEmpty then (d, true)
    else
      match d.makeDir p with
      | .new d => (d, true)
      | .present isDirectory => (d, isDirectory)
      | .fault .unreachable => (d, false)
      | .fault .missing =>
        match p.parent? with
        | none => (d, false)
        | some parent =>
          match d.makeDirsFor fuel parent with
          | (d, false) => (d, false)
          | (d, true) =>
            match d.makeDir p with
            | .new d => (d, true)
            | .present isDirectory => (d, isDirectory)
            | .fault _ => (d, false)

/-- The disk with directories along a path as far as they can be made, and whether they are all
there; the empty path needs none. -/
def makeDirs (d : Disk) (path : String) : Disk × Bool :=
  match DiskPath.ofText? path with
  | none => (d, false)
  | some p => d.makeDirsFor (p.parts.length + 2) p

/-! ## The whole -/

/-- The disk without what stands at a path and below it. -/
def remove (d : Disk) (path : String) : Disk :=
  match d.place? path with
  | none => d
  | some (s, name) => { d with root := Spot.root { s with entries := Assoc.erase name s.entries } }

mutual

/-- The files of a node at a path, with their paths. -/
def nodeFiles (path : List String) : DiskNode → List (List String × List UInt8)
  | .file bytes => [(path.reverse, bytes)]
  | .directory entries => entryFiles path entries

/-- The files among the entries of the directory at a path, with their paths. -/
def entryFiles (path : List String) :
    List (String × DiskNode) → List (List String × List UInt8)
  | [] => []
  | (name, node) :: entries => nodeFiles (name :: path) node ++ entryFiles path entries

end

/-- The files below the directory at which relative paths start, with their paths and texts. -/
def files (d : Disk) : List (String × String) :=
  match d.follow false [] with
  | .error _ => []
  | .ok s =>
    (entryFiles [] s.entries).filterMap fun (path, bytes) =>
      (utf8Decode? bytes).map fun text => (joinParts path, String.ofList text)

end Disk

def diskStore : FileStore (StateM Disk) where
  read path := do return (← get).read? path
  makeDirs path := do
    let (d, made) := (← get).makeDirs path
    set d
    return made
  write path contents := do
    match (← get).write? path contents with
    | some d =>
      set d
      return true
    | none => return false

end ScreenRoutes
