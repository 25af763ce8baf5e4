import ScreenRoutes.Token.Fault
import ScreenRoutes.Token.Literal

/-!
# Reading token trees

A reading takes trees from the front of what remains, and fails with a fault. A group is read by a
reading of its inside; trees that are left over there are a fault only once the whole has been read.
What a reading yields is code again, in its normal spelling.
-/

namespace ScreenRoutes

/-! ## Looking ahead -/

namespace Tokens

def startsWord (word : String) : Tokens → Bool
  | .ident w :: _ => w == word
  | _ => false

def startsAnyWord (words : List String) : Tokens → Bool
  | .ident w :: _ => words.contains w
  | _ => false

/-- Whether the trees start with the punctuation characters, joined to each other. -/
def startsChars : List Char → Tokens → Bool
  | [], _ => true
  | [c], .punct d _ :: _ => c == d
  | c :: cs, .punct d joint :: ts => c == d && joint && startsChars cs ts
  | _, _ => false

def startsMark (mark : String) (ts : Tokens) : Bool :=
  startsChars mark.toList ts

def startsAnyMark (marks : List String) (ts : Tokens) : Bool :=
  marks.any fun mark => startsMark mark ts

def startsGroup (d : Delimiter) : Tokens → Bool
  | .group e _ :: _ => d == e
  | _ => false

def startsLifetime : Tokens → Bool
  | .punct '\'' _ :: .ident _ :: _ => true
  | _ => false

/-- Whether the trees start with an identifier that may name something. -/
def startsName : Tokens → Bool
  | .ident w :: _ => isPlainWord w
  | _ => false

def startsIdent : Tokens → Bool
  | .ident _ :: _ => true
  | _ => false

/-- Whether the trees start with a literal: a token of its own, a truth value, or a negative
number. -/
def startsLiteral : Tokens → Bool
  | .literal _ :: _ => true
  | .ident w :: _ => w == "true" || w == "false"
  | .punct '-' _ :: .literal l :: _ => l.toList.head?.any Char.isDigit
  | _ => false

def startsString : Tokens → Bool
  | .literal l :: _ => (stringValue? l).isSome
  | _ => false

/-- Whether the trees start with a mark that is not the beginning of a longer one. -/
def startsMarkNot (mark : String) (longer : List String) (ts : Tokens) : Bool :=
  startsMark mark ts && !startsAnyMark longer ts

/-- The trees behind the first one; a lifetime counts as one tree. -/
def second : Tokens → Tokens
  | .punct '\'' _ :: .ident _ :: ts => ts
  | ts => ts.drop 1

def third (ts : Tokens) : Tokens :=
  second (second ts)

end Tokens

/-! ## Readings -/

/-- How far trees are read: those that remain, and the delimiter of the first group in which some
were left over. -/
structure Progress where
  rest : Tokens
  leftover : Option Delimiter

/-- Reads from the front of trees. -/
abbrev Reading (α : Type) := StateT Progress (Except TokenFault) α

namespace Reading

open Tokens

variable {α : Type}

def rest : Reading Tokens := do
  return (← get).rest

/-- Whether the trees that remain have a property. -/
def ahead (p : Tokens → Bool) : Reading Bool := do
  return p (← rest)

/-- Takes the given number of trees. -/
def take (n : Nat) : Reading Tokens := do
  let ts ← rest
  modify fun s => { s with rest := s.rest.drop n }
  return ts.take n

/-- Fails for want of something. -/
def expected (what : String) : Reading α := do
  throw (.expected what (← rest).isEmpty)

/-- Fails for want of one of several things. -/
def expectedOneOf (whats : List String) : Reading α :=
  match whats with
  | [a] => expected a
  | [a, b] => expected (a ++ " or " ++ b)
  | _ => expected ("one of: " ++ Text.concat (whats.intersperse ", "))

/-- Takes a word that must come next. -/
def word (w : String) : Reading Tokens := do
  if ← ahead (startsWord w) then take 1 else expected ("`" ++ w ++ "`")

/-- Takes a word if it comes next. -/
def wordIf (w : String) : Reading Tokens := do
  if ← ahead (startsWord w) then take 1 else return []

/-- Takes a mark that must come next. -/
def mark (m : String) : Reading Tokens := do
  if ← ahead (startsMark m) then take m.length else throw (.missing ("`" ++ m ++ "`"))

/-- Takes a mark if it comes next. -/
def markIf (m : String) : Reading Tokens := do
  if ← ahead (startsMark m) then take m.length else return []

def name : Reading String := do
  match ← rest with
  | .ident w :: _ =>
    if isPlainWord w then
      let _ ← take 1
      return w
    else throw (.keyword w)
  | _ => expected "identifier"

def nameTokens : Reading Tokens := do
  return [.ident (← name)]

def lifetime : Reading Tokens := do
  if ← ahead startsLifetime then take 2 else expected "lifetime"

/-- Takes a lifetime if one comes next. -/
def lifetimeIf : Reading Tokens := do
  if ← ahead startsLifetime then take 2 else return []

/-- Takes a literal, with a minus sign where it has one. -/
def literal : Reading Tokens := do
  let ts ← rest
  if startsMark "-" ts && startsLiteral ts then take 2
  else if startsLiteral ts then take 1
  else expected "literal"

/-- Takes a string of text and yields its value. -/
def string : Reading String := do
  match ← rest with
  | .literal l :: _ =>
    match stringValue? l with
    | some value =>
      let _ ← take 1
      return value
    | none => expected "string literal"
  | _ => expected "string literal"

def truth : Reading Bool := do
  let ts ← rest
  if startsAnyWord ["true", "false"] ts then
    let _ ← take 1
    return startsWord "true" ts
  else expected "boolean literal"

def groupName : Delimiter → String
  | .paren => "parentheses"
  | .bracket => "square brackets"
  | .brace => "curly braces"

/-- Takes a group of the delimiter and reads its inside. -/
def inside (d : Delimiter) (p : Reading α) : Reading α := do
  match ← rest with
  | .group e content :: more =>
    if d = e then
      let (a, s) ← p.run ⟨content, (← get).leftover⟩
      let unread := if s.rest.isEmpty then none else some d
      set (⟨more, s.leftover <|> unread⟩ : Progress)
      return a
    else expected (groupName d)
  | _ => expected (groupName d)

/-- Takes a group of the delimiter, with its inside in normal spelling. -/
def group (d : Delimiter) (p : Reading Tokens) : Reading Tokens := do
  return [.group d (← inside d p)]

/-- Takes a group of any delimiter as it stands. -/
def anyGroup : Reading Tokens := do
  match ← rest with
  | .group _ _ :: _ => take 1
  | _ => expected "delimiter"

/-- Reads as `p` does, or takes nothing where it fails. -/
def attempt (p : Reading α) : Reading (Option α) := fun s =>
  match p s with
  | .ok (a, s) => .ok (some a, s)
  | .error _ => .ok (none, s)

/-- What `p` finds ahead and what remains behind it, if it does not fail there. -/
def foresee (p : Reading α) : Reading (Option (α × Tokens)) := do
  match p (← get) with
  | .ok (a, s) => return some (a, s.rest)
  | .error _ => return none

/-- What `p` finds ahead, which must not fail there. -/
def preview (p : Reading α) : Reading (α × Tokens) := do
  let (a, s) ← p.run (← get)
  return (a, s.rest)

/-- The trees at the front of some that are no longer among those that remain. -/
def taken (before after : Tokens) : Tokens :=
  before.take (before.length - after.length)

/-- What `p` yields, with the trees that it takes as they stand. -/
def withWritten (p : Reading α) : Reading (α × Tokens) := do
  let before ← rest
  let a ← p
  return (a, taken before (← rest))

/-- The trees that `p` takes, as they stand. -/
def asWritten (p : Reading α) : Reading Tokens := do
  return (← withWritten p).2

/-- Reads as `p` does; where `p` has no normal spelling, the trees stay as they stand. -/
def orAsWritten (p : Reading (Option Tokens)) : Reading Tokens := do
  let before ← rest
  match ← p with
  | some normal => return normal
  | none => return taken before (← rest)

/-! ## Sequence and choice -/

/-- Reads one after the other. -/
def inOrder (ps : List (Reading Tokens)) : Reading Tokens := do
  return (← ps.mapM id).flatten

/-- Reads if the trees that remain have a property. -/
def optionally (p : Tokens → Bool) (reading : Reading Tokens) : Reading Tokens := do
  if ← ahead p then reading else return []

/-! ## Repetition -/

/-- Reads items while the trees that remain have a property, `fuel` times at most. -/
def repeatFor (fuel : Nat) (going : Tokens → Bool) (item : Reading α) : Reading (List α) :=
  match fuel with
  | 0 => return []
  | fuel + 1 => do
    if going (← rest) then
      let a ← item
      return a :: (← repeatFor fuel going item)
    else return []

/-- Reads items, each of one tree or more, while the trees that remain have a property. -/
def repeatWhile (going : Tokens → Bool) (item : Reading α) : Reading (List α) := do
  let ts ← rest
  if going ts then repeatFor (ts.length + 1) going item else return []

def repeatToEnd (item : Reading α) : Reading (List α) :=
  repeatWhile (fun ts => !ts.isEmpty) item

/-- Reads an item with a mark behind it, and further ones as `more` does. It stops in front of the
item where `before` says so, and behind it where `after` does. -/
def listItem (separator : String) (before after : Tokens → Bool) (item : Reading α)
    (more : Reading (List (α × Tokens))) : Reading (List (α × Tokens)) := do
  if before (← rest) then return []
  else
    let a ← item
    if after (← rest) then return [(a, [])]
    else
      let m ← mark separator
      return (a, m) :: (← more)

/-- Reads items with a mark behind each but perhaps the last, `fuel` of them at most. -/
def listFor (fuel : Nat) (separator : String) (before after : Tokens → Bool) (item : Reading α) :
    Reading (List (α × Tokens)) :=
  match fuel with
  | 0 => return []
  | fuel + 1 => listItem separator before after item (listFor fuel separator before after item)

/-- Reads items with a mark behind each but perhaps the last. -/
def list (separator : String) (before after : Tokens → Bool) (item : Reading α) :
    Reading (List (α × Tokens)) :=
  listItem separator before after item do
    listFor ((← rest).length + 1) separator before after item

def listTokens (items : List (Tokens × Tokens)) : Tokens :=
  items.flatMap fun (item, separator) => item ++ separator

def commaList (item : Reading Tokens) : Reading Tokens := do
  return listTokens (← list "," List.isEmpty List.isEmpty item)

/-! ## The whole -/

/-- Reads from the front of the trees, and yields what remains too. -/
def front (p : Reading α) (ts : Tokens) : Except TokenFault (α × Tokens) := do
  let (a, s) ← p.run ⟨ts, none⟩
  return (a, s.rest)

def whole (p : Reading α) (ts : Tokens) : Except TokenFault α := do
  let (a, s) ← p.run ⟨ts, none⟩
  match s.leftover with
  | some d => throw (.leftover (some d))
  | none => if s.rest.isEmpty then pure a else throw (.leftover none)

end Reading

end ScreenRoutes
