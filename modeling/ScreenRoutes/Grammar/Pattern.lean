import ScreenRoutes.Grammar.Type

/-!
# Patterns

Names, paths, literals and ranges of them, structures and tuples, slices, references, and
alternatives with `|` between them.
-/

namespace ScreenRoutes

open Reading Tokens

namespace Reading

/-! ## Members -/

def greatestIndex : Nat :=
  4294967295

/-- The number that an index stands for, as trees. -/
def indexTokens (literal : String) : Reading Tokens :=
  match integerParts? literal with
  | none => throw (.missing "integer literal")
  | some (n, suffix) =>
    if !suffix.isEmpty then throw .suffixedIndex
    else if greatestIndex < n then throw .hugeIndex
    else return [.literal (toString n)]

def startsInteger (ts : Tokens) : Bool :=
  match ts with
  | .literal l :: _ => (integerValue? l).isSome
  | _ => false

/-- A member of a structure or tuple: a name or an index. -/
def member : Reading Tokens := do
  match ← rest with
  | .ident w :: _ => if isPlainWord w then take 1 else expected "identifier or integer"
  | .literal l :: ts =>
    if startsInteger (.literal l :: ts) then
      let _ ← take 1
      indexTokens l
    else expected "identifier or integer"
  | _ => expected "identifier or integer"

/-! ## Ranges -/

/-- The mark of a range, and whether its end is included. -/
def rangeMark : Reading (Tokens × Bool) := do
  let ts ← rest
  if startsMark "..=" ts then return (← take 3, true)
  else if startsMark "..." ts then expected "`..=`"
  else if startsMark ".." ts then return (← take 2, false)
  else expectedOneOf ["`..`", "`..=`"]

/-- The mark of a range in a pattern, where `...` may stand for `..=`. -/
def patternRangeMark : Reading (Tokens × Bool) := do
  if ← ahead (startsMark "...") then
    let _ ← take 3
    return (TokenTree.mark "..=", true)
  else rangeMark

end Reading

namespace Grammar

def plainPattern (ts : Tokens) : PatternText :=
  ⟨ts, .other⟩

/-- Whether `|` comes next as the mark of another alternative. -/
def startsAlternative (ts : Tokens) : Bool :=
  startsMarkNot "|" ["||", "|="] ts

/-- A pattern, or alternatives with `|` between them and perhaps in front. -/
def alternatives (g : Grammar) : Reading PatternText := do
  let start ← markIf "|"
  let first ← g.pattern
  if start.isEmpty && !(← ahead startsAlternative) then return first
  else
    let more ← repeatWhile startsAlternative (inOrder [take 1, g.patternTokens])
    return plainPattern (start ++ first.tokens ++ more.flatten)

def alternativesTokens (g : Grammar) : Reading Tokens := do
  return (← g.alternatives).tokens

/-! ## Ranges -/

/-- Whether a range in a pattern has no end. -/
def endsOpenRange (ts : Tokens) : Bool :=
  ts.isEmpty || startsAnyMark ["|", "=", ",", ";"] ts || startsColon ts || startsWord "if" ts

def startsRangePath (ts : Tokens) : Bool :=
  startsName ts || startsAnyMark ["::", "<"] ts ||
    startsAnyWord ["self", "Self", "super", "crate"] ts

def constantBlock (g : Grammar) : Reading Tokens :=
  inOrder [word "const", g.attributedBlock]

/-- One end of a range in a pattern: a literal, a path, or a constant block. -/
def patternEnd (g : Grammar) : Reading PatternText := do
  let ts ← rest
  if startsLiteral ts then return plainPattern (← literal)
  else if startsRangePath ts then return plainPattern (← g.qualifiedPath true).tokens
  else if startsWord "const" ts then return plainPattern (← g.constantBlock)
  else
    expectedOneOf ["literal", "identifier", "`::`", "`<`", "`self`", "`Self`", "`super`", "`crate`",
      "`const`"]

def rangeBehind (g : Grammar) (start : Tokens) : Reading PatternText := do
  let (mark, included) ← patternRangeMark
  if !(← ahead endsOpenRange) then
    let stop ← g.patternEnd
    return ⟨start ++ mark ++ stop.tokens, if start.isEmpty then .openRange else .other⟩
  else if included then expected "range upper bound"
  else return ⟨start ++ mark, if start.isEmpty then .rest else .openRange⟩

/-- A literal or constant block, or a range that starts with one. -/
def literalPattern (g : Grammar) : Reading PatternText := do
  let start ← g.patternEnd
  if ← ahead (startsMark "..") then g.rangeBehind start.tokens else return start

/-! ## Names and paths -/

/-- The name of a pattern; `self` may be one. -/
def boundName : Reading String := do
  if ← ahead (startsWord "self") then
    let _ ← take 1
    return "self"
  else name

/-- A name with marks around it. -/
def binding (g : Grammar) : Reading PatternText := do
  let start ← inOrder [wordIf "ref", wordIf "mut"]
  let name ← boundName
  let inside ← optionally (startsMark "@") (inOrder [take 1, g.patternTokens])
  return ⟨start ++ .ident name :: inside, .binding name⟩

/-- A field of a pattern: its name alone, with marks in front, or a pattern behind a colon. -/
def fieldPattern (g : Grammar) : Reading Tokens := do
  let marks ← inOrder [wordIf "box", wordIf "ref", wordIf "mut"]
  if marks.isEmpty then
    let isName ← ahead startsName
    let this ← member
    if !isName || (← ahead (startsMark ":")) then
      return this ++ (← inOrder [mark ":", g.alternativesTokens])
    else return this
  else return marks ++ (← nameTokens)

/-- Fields of a pattern, and `..` behind them where others are left out. -/
def fieldPatternsFor (g : Grammar) (fuel : Nat) : Reading Tokens :=
  match fuel with
  | 0 => return []
  | fuel + 1 => do
    if ← ahead List.isEmpty then return []
    let attributes ← g.attributeTokens
    if ← ahead (startsMark "..") then return attributes ++ (← take 2)
    else
      let this ← g.fieldPattern
      if ← ahead List.isEmpty then return attributes ++ this
      else return attributes ++ this ++ (← mark ",") ++ (← g.fieldPatternsFor fuel)

def fieldPatterns (g : Grammar) : Reading Tokens :=
  group .brace (do g.fieldPatternsFor ((← rest).length + 1))

def pathPattern (g : Grammar) : Reading PatternText := do
  let path ← g.qualifiedPath true
  let ts ← rest
  if !path.isQualified && startsBang ts && path.isPlain then
    return plainPattern (path.tokens ++ (← invocation))
  else if startsGroup .brace ts then return plainPattern (path.tokens ++ (← g.fieldPatterns))
  else if startsGroup .paren ts then
    return plainPattern (path.tokens ++ (← group .paren (commaList g.alternativesTokens)))
  else if startsMark ".." ts then g.rangeBehind path.tokens
  else return plainPattern path.tokens

/-! ## All patterns -/

/-- A pattern between parentheses, or a tuple of patterns. -/
def parenPattern (g : Grammar) : Reading PatternText := do
  return plainPattern (← group .paren (commaList g.alternativesTokens))

def slicePattern (g : Grammar) : Reading PatternText := do
  return plainPattern (← group .bracket (commaList do
    let this ← g.alternatives
    if this.form = .openRange then throw .openRangeInSlice else return this.tokens))

def patternStarts : List String :=
  ["identifier", "`::`", "`<`", "`_`", "literal", "`const`", "`ref`", "`mut`", "`&`", "parentheses",
    "square brackets", "`..`"]

/-- Whether a name is followed by what makes it a path. -/
def startsPathPattern (ts : Tokens) : Bool :=
  let behind := second ts
  startsName ts &&
      (startsAnyMark ["::", "!", ".."] behind || startsGroup .brace behind ||
        startsGroup .paren behind) ||
    startsWord "self" ts && startsMark "::" behind || startsAnyMark ["::", "<"] ts ||
    startsAnyWord ["Self", "super", "crate"] ts

/-- A pattern without alternatives. -/
def readPattern (g : Grammar) : Reading PatternText := do
  let ts ← rest
  if startsPathPattern ts then g.pathPattern
  else if startsWord "_" ts then return plainPattern (← take 1)
  else if startsWord "box" ts then
    return ⟨← asWritten (inOrder [take 1, g.patternTokens]), .fixed⟩
  else if startsMark "-" ts || startsLiteral ts || startsWord "const" ts then g.literalPattern
  else if startsAnyWord ["ref", "mut", "self"] ts || startsName ts then g.binding
  else if startsMark "&" ts then
    return plainPattern (← inOrder [take 1, wordIf "mut", g.patternTokens])
  else if startsGroup .paren ts then g.parenPattern
  else if startsGroup .bracket ts then g.slicePattern
  else if startsMarkNot ".." ["..."] ts then g.rangeBehind []
  else expectedOneOf patternStarts

end Grammar

end ScreenRoutes
