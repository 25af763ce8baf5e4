import ScreenRoutes.SourceFile.Spelling
import ScreenRoutes.OutputPath

/-!
# Source files

A code unit is written out as one Kotlin file: the package, the imports in order, and the three
members. A file is built from fragments that tell names from the code around them, and printed by
putting the fragments one after the other.

| here | there |
| --- | --- |
| `importsFor` | `KotlinFile::import` |
| `lineFragments` | `KotlinFile::line` |
| `SourceFile.text` | `render_unit` |
| `CodeUnit.sourcePath` | `relative_path` |
-/

namespace ScreenRoutes

open Text

/-- A stretch of a source file: code, or a name in a place that expects one, as it is spelled. -/
inductive Fragment where
  | code (s : String)
  | name (spelled : String)
  deriving DecidableEq, Repr

def Fragment.text : Fragment → String
  | .code s => s
  | .name s => s

/-- A line of fragments at a level of indentation. -/
structure SourceLine where
  level : Nat
  fragments : List Fragment
  deriving DecidableEq, Repr

/-- A name used from a package. -/
structure Reference where
  package : String
  name : String
  deriving DecidableEq, Repr

structure SourceFile where
  package : String
  imports : List String
  members : List (List SourceLine)
  deriving DecidableEq, Repr

/-- A dotted path as names with points between them. -/
def dotted (path : String) : List Fragment :=
  ((path.toList.splitOn '.').map fun part => Fragment.name (String.ofList part)).intersperse
    (.code ".")

namespace SourceFile

def lineFragments (indent : String) (l : SourceLine) : List Fragment :=
  .code (concat (List.replicate l.level indent)) :: l.fragments ++ [.code "\n"]

/-- The line that names the package, and the line below it. -/
def packageFragments (package : String) : List Fragment :=
  if package.isEmpty then [] else .code "package " :: dotted package ++ [.code "\n\n"]

/-- The lines of imports, and the line below them. -/
def importFragments (imports : List String) : List Fragment :=
  if imports.isEmpty then []
  else (imports.flatMap fun i => .code "import " :: dotted i ++ [.code "\n"]) ++ [.code "\n"]

/-- All fragments of the file in order, members set apart by an empty line. -/
def fragments (indent : String) (f : SourceFile) : List Fragment :=
  packageFragments f.package ++ importFragments f.imports ++
    [Fragment.code "\n"].intercalate (f.members.map fun m => m.flatMap (lineFragments indent))

def text (indent : String) (f : SourceFile) : String :=
  concat ((f.fragments indent).map Fragment.text)

end SourceFile

/-! ## Imports -/

/-- Adds a text to an ascending list that holds no text twice. -/
def insertSorted (s : String) : List String → List String
  | [] => [s]
  | t :: ts => if s < t then s :: t :: ts else if s = t then t :: ts else t :: insertSorted s ts

/-- The imports that a file in `package` needs for its references, in ascending order: a reference
without a package or into the file's own package needs none. -/
def importsFor (package : String) (references : List Reference) : List String :=
  let needed := references.filter fun r => !r.package.isEmpty && r.package != package
  (needed.map fun r => r.package ++ "." ++ r.name).foldr insertSorted []

/-! ## Location -/

/-- Where the unit's file lies below the output root: a directory for each part of its package, and
a file named for the unit. -/
def CodeUnit.sourcePath (u : CodeUnit) : String :=
  let folders := (u.package.toList.splitOn '.').filter fun part => !part.isEmpty
  joinPath ((folders.map String.ofList).foldl joinPath "") (u.name ++ ".kt")

end ScreenRoutes
