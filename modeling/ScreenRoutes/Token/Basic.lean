import ScreenRoutes.Text.Blank
import ScreenRoutes.Text.Cut
import ScreenRoutes.Text.IdentifierChar

/-!
# Tokens

Rust code as token trees: identifiers, punctuation characters, literals, and groups between
delimiters. A tree is shown by its leaves one after the other, delimiters among them.
-/

namespace ScreenRoutes

open Text

/-- The delimiters of a group. A group without visible delimiters, which only expanding other code
brings about, is left out. -/
inductive Delimiter where
  | paren
  | bracket
  | brace
  deriving DecidableEq, Repr

def Delimiter.opening : Delimiter → String
  | .paren => "("
  | .bracket => "["
  | .brace => "\x7b"

def Delimiter.closing : Delimiter → String
  | .paren => ")"
  | .bracket => "]"
  | .brace => "\x7d"

/-- A token tree. An identifier has its text as written, with `r#` where it is raw; a punctuation
character is joint if another follows it directly. -/
inductive TokenTree where
  | ident (text : String)
  | punct (c : Char) (joint : Bool)
  | literal (text : String)
  | group (d : Delimiter) (inside : List TokenTree)
  deriving BEq, Repr

/-- Token trees one after the other. -/
abbrev Tokens := List TokenTree

mutual

def TokenTree.leaves : TokenTree → List String
  | .ident text => [text]
  | .punct c _ => [String.singleton c]
  | .literal text => [text]
  | .group d inside => d.opening :: leavesOf inside ++ [d.closing]

def leavesOf : List TokenTree → List String
  | [] => []
  | t :: ts => t.leaves ++ leavesOf ts

end

mutual

def TokenTree.size : TokenTree → Nat
  | .group _ inside => sizeOfAll inside + 2
  | _ => 1

/-- The number of leaves of trees. -/
def sizeOfAll : List TokenTree → Nat
  | [] => 0
  | t :: ts => t.size + sizeOfAll ts

end

/-- Whether an item ends with the tree: a group between braces, or a semicolon. -/
def TokenTree.endsItem : TokenTree → Bool
  | .group .brace _ => true
  | .punct ';' _ => true
  | _ => false

/-- Trees cut into items, each with the tree that ends it. -/
def itemsOf : Tokens → List Tokens
  | [] => []
  | t :: ts =>
    match t.endsItem, itemsOf ts with
    | true, items => [t] :: items
    | false, item :: items => (t :: item) :: items
    | false, [] => [[t]]

/-- Trees as a line: their leaves with blanks between them. -/
def printTokens (ts : Tokens) : String :=
  concat ((leavesOf ts).intersperse " ")

/-- Trees as one word: their leaves without any blank, even within a literal. -/
def squeezeTokens (ts : Tokens) : String :=
  String.ofList (squeeze (concat (leavesOf ts)).toList)

/-! ## Identifiers -/

/-- The identifier without the mark of a raw one. -/
def unraw (name : String) : String :=
  match after? ['r', '#'] name.toList with
  | some rest => String.ofList rest
  | none => name

/-- Words that are no identifiers unless they are raw. -/
def reservedWords : List String :=
  ["_", "abstract", "as", "async", "await", "become", "box", "break", "const", "continue", "crate",
    "do", "dyn", "else", "enum", "extern", "false", "final", "fn", "for", "if", "impl", "in", "let",
    "loop", "macro", "match", "mod", "move", "mut", "override", "priv", "pub", "ref", "return",
    "Self", "self", "static", "struct", "super", "trait", "true", "try", "type", "typeof", "unsafe",
    "unsized", "use", "virtual", "where", "while", "yield"]

/-- Whether an identifier may name something. -/
def isPlainWord (name : String) : Bool :=
  !reservedWords.contains name

/-! ## Writing tokens -/

namespace TokenTree

/-- A punctuation mark of one or more characters. -/
def mark (s : String) : Tokens :=
  let cs := s.toList
  (cs.zip (cs.drop 1)).map (fun (c, _) => .punct c true) ++
    cs.getLast?.toList.map (fun c => .punct c false)

def rootPath (names : List String) : Tokens :=
  names.flatMap fun name => mark "::" ++ [.ident name]

end TokenTree

end ScreenRoutes
