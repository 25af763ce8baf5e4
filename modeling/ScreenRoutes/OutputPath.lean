import ScreenRoutes.Text.Cut

/-!
# Output paths

Paths are texts with `/` between their parts. Appending an absolute path replaces what came before,
and nothing is normalised; two paths name the same place when their parts agree.
-/

namespace ScreenRoutes

/-- The path `more` seen from `base`. -/
def joinPath (base more : String) : String :=
  match base.toList.getLast?, more.toList with
  | _, '/' :: _ => more
  | none, _ => more
  | some '/', _ => base ++ more
  | some _, _ => base ++ "/" ++ more

/-- The texts between the slashes. -/
def splitPath (cs : List Char) : List String :=
  (cs.splitOn '/').map String.ofList

/-- The parts one after the other, with `/` between them. -/
def joinParts (parts : List String) : String :=
  Text.concat (parts.intersperse "/")

/-- Whether a part of a path leads nowhere else. -/
def isIdlePart (part : String) : Bool :=
  part.isEmpty || part == "."

/-- The parts of a path below its root: empty parts and dots do not count. -/
def namedParts (cs : List Char) : List String :=
  (splitPath cs).filter fun part => !isIdlePart part

/-- The parts by which paths are compared: the root, a dot at the start, then the named parts. -/
def pathParts (path : String) : List String :=
  let cs := path.toList
  let lead :=
    match cs with
    | '/' :: _ => ["/"]
    | ['.'] => ["."]
    | '.' :: '/' :: _ => ["."]
    | _ => []
  lead ++ namedParts cs

/-- The parts without those at the end that lead nowhere else. -/
def trimParts (parts : List String) : List String :=
  (parts.reverse.dropWhile isIdlePart).reverse

/-- The parts of a relative path without those at the end that lead nowhere else; a dot that is
all there is stays. -/
def trimRelative (parts : List String) : List String :=
  if (trimParts parts).isEmpty && parts.head? == some "." then ["."] else trimParts parts

/-- The parts of the directory around a path, if there is one. -/
def parentParts? (rooted : Bool) (parts : List String) : Option (List String) :=
  let trim := if rooted then trimParts else trimRelative
  match trim parts with
  | [] => none
  | parts => some (trim parts.dropLast)

/-- The path of the directory around a path, if there is one; what stands in front of the last part
is kept as it is written. -/
def parentPath? (path : String) : Option String :=
  match path.toList with
  | '/' :: cs => (parentParts? true (splitPath cs)).map fun parts => "/" ++ joinParts parts
  | cs => (parentParts? false (splitPath cs)).map joinParts

end ScreenRoutes
