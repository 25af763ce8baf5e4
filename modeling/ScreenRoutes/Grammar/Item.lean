import ScreenRoutes.Grammar.Signature

/-!
# Items

Functions, types, traits and their implementations, modules, constants, imports, and calls of what
stands for items. An item of a form that has no normal spelling stays as it stands.
-/

namespace ScreenRoutes

open Reading Tokens

namespace Grammar

/-! ## Pieces of items -/

/-- The inside of something with items of a kind in it, with attributes of the whole in front. -/
def body (g : Grammar) (item : Reading Tokens) : Reading Tokens :=
  group .brace do
    return (← g.innerAttributes) ++ (← repeatToEnd item).flatten

/-- A name, or the placeholder `_`. -/
def nameOrBlank : Reading Tokens := do
  if ← ahead fun ts => startsName ts || startsWord "_" ts then take 1
  else expectedOneOf ["identifier", "`_`"]

def valueIf (g : Grammar) : Reading Tokens :=
  optionally (startsMark "=") (inOrder [take 1, g.exprTokens])

def definitionIf (g : Grammar) : Reading Tokens :=
  optionally (startsMark "=") (inOrder [take 1, g.typeTokens])

/-- Bounds with `+` between them, up to where `stops` says so. -/
def boundsUntil (g : Grammar) (stops : Tokens → Bool) : Reading (List (Tokens × Tokens)) :=
  list "+" stops stops (g.boundTokens false true)

def boundsBehindColon (g : Grammar) (stops : Tokens → Bool) : Reading (Tokens × Tokens) := do
  let colon ← markIf ":"
  if colon.isEmpty then return ([], [])
  else return (colon, boundedTokens colon (← g.boundsUntil stops))

def startsItemCall (ts : Tokens) : Bool :=
  startsName ts || startsAnyWord ["self", "super", "crate"] ts || startsMark "::" ts

def itemCallStarts : List String :=
  ["identifier", "`self`", "`super`", "`crate`", "`::`"]

/-- The group of a call, and the semicolon behind it unless the group is between braces. -/
def calledItem : Reading Tokens := do
  let braced ← ahead (startsGroup .brace)
  let called ← anyGroup
  return called ++ (← if braced then pure [] else mark ";")

/-- The call of something that stands for a member of a trait, an implementation or a foreign
interface. -/
def memberCall : Reading Tokens :=
  inOrder [plainPath, mark "!", calledItem]

/-- The call of something that stands for an item, which may be given a name. -/
def itemCall : Reading Tokens :=
  inOrder [plainPath, mark "!",
    optionally (fun ts => startsName ts || startsWord "try" ts) (take 1), calledItem]

def functionBody (g : Grammar) : Reading Tokens :=
  g.attributedBlock

/-! ## Types and constants -/

/-- Where the conditions of a type stand: in front of its definition, behind it, or either way. -/
inductive ConditionPlace where
  | before
  | behind
  | either
  deriving DecidableEq, Repr

/-- A type as an item: all that precedes its bounds, its bounds with the colon and without if there
are none, its definition and its conditions. -/
structure TypeItem where
  visibility : Tokens
  start : Tokens
  colon : Tokens
  bounds : Tokens
  definition : Tokens
  conditions : Tokens

def typeItem (g : Grammar) (mayDefault : Bool) (place : ConditionPlace) : Reading TypeItem := do
  let visibility ← visibility
  let default ← if mayDefault then wordIf "default" else pure []
  let start ← inOrder [word "type", nameTokens, g.genericsTokens]
  let (colon, bounds) ←
    g.boundsBehindColon fun ts => startsWord "where" ts || startsAnyMark ["=", ";"] ts
  let early ← if place = .behind then pure none else do
    if ← ahead (startsWord "where") then pure (some (← g.conditions)) else pure none
  let definition ← g.definitionIf
  let late ← if place = .before || early.isSome then pure [] else g.conditions
  let _ ← mark ";"
  return ⟨visibility, default ++ start, colon, bounds, definition, early.getD [] ++ late⟩

/-- A type as an item of a module. -/
def typeAlias (g : Grammar) : Reading (Option Tokens) := do
  let t ← g.typeItem false .before
  return if t.colon.isEmpty && !t.definition.isEmpty then
    some (t.visibility ++ t.start ++ t.conditions ++ t.definition ++ TokenTree.mark ";")
  else none

/-- A type as a member of an implementation. -/
def typeMember (g : Grammar) : Reading (Option Tokens) := do
  let t ← g.typeItem true .behind
  return if t.colon.isEmpty && !t.definition.isEmpty then
    some (t.visibility ++ t.start ++ t.definition ++ t.conditions ++ TokenTree.mark ";")
  else none

/-- A type as a member of a trait. -/
def typeInTrait (g : Grammar) : Reading (Option Tokens) := do
  let t ← g.typeItem false .behind
  return if t.visibility.isEmpty then
    some (t.start ++ t.bounds ++ t.definition ++ t.conditions ++ TokenTree.mark ";")
  else none

/-- A type as a member of a foreign interface. -/
def foreignType (g : Grammar) : Reading (Option Tokens) := do
  let t ← g.typeItem false .either
  return if t.colon.isEmpty && t.definition.isEmpty then
    some (t.visibility ++ t.start ++ t.conditions ++ TokenTree.mark ";")
  else none

/-- A constant from its word on, and whether it has generic parameters or conditions, and whether it
has a value. -/
def constantItem (g : Grammar) : Reading (Tokens × Bool × Bool) := do
  let start ← inOrder [word "const", nameOrBlank]
  let generic ← ahead (startsMark "<")
  let generics ← g.genericsTokens
  let type ← inOrder [mark ":", g.typeTokens]
  let value ← g.valueIf
  let conditional ← ahead (startsWord "where")
  let conditions ← g.conditions
  let stop ← mark ";"
  return (start ++ generics ++ type ++ value ++ conditions ++ stop, generic || conditional,
    !value.isEmpty)

/-- A constant with a value and without generic parameters. -/
def plainConstant (g : Grammar) : Reading (Option Tokens) := do
  let (ts, generic, valued) ← g.constantItem
  return if valued && !generic then some ts else none

def staticItem (g : Grammar) : Reading (Option Tokens) := do
  let start ← inOrder [visibility, word "static", wordIf "mut", nameTokens]
  if ← ahead (startsMark "=") then
    let _ ← inOrder [take 1, g.exprTokens, mark ";"]
    return none
  else
    let type ← inOrder [mark ":", g.typeTokens]
    if ← ahead (startsMark ";") then
      let _ ← take 1
      return none
    else return some (start ++ type ++ (← inOrder [mark "=", g.exprTokens, mark ";"]))

/-! ## Imports -/

def startsImportWord (ts : Tokens) : Bool :=
  startsName ts || startsAnyWord ["self", "super", "crate", "try"] ts

/-- What is imported: a name, a path to something further, all there is, or several of them between
braces. The root may stand in front of a branch where `rooted` says so. -/
def importTreeFor (fuel : Nat) (rooted : Bool) : Reading Unit :=
  match fuel with
  | 0 => throw .tooDeep
  | fuel + 1 => do
    let ts ← rest
    if startsImportWord ts then
      let _ ← take 1
      if ← ahead (startsMark "::") then
        let _ ← take 2
        importTreeFor fuel false
      else if ← ahead (startsWord "as") then
        let _ ← take 1
        if ← ahead fun ts => startsName ts || startsWord "_" ts then
          let _ ← take 1
        else expected "identifier or underscore"
      else return
    else if startsMark "*" ts then
      let _ ← take 1
    else if startsGroup .brace ts then
      inside .brace do
        let _ ← list "," List.isEmpty List.isEmpty do
          let root ← if rooted then markIf "::" else pure []
          importTreeFor fuel (rooted && root.isEmpty)
    else
      expectedOneOf
        ["identifier", "`self`", "`super`", "`crate`", "`try`", "`*`", "curly braces"]

/-- An import, which stays as it stands. -/
def importItem : Reading Tokens :=
  asWritten do
    let _ ← inOrder [visibility, word "use"]
    let root ← markIf "::"
    importTreeFor (sizeOfAll (← rest) + 1) root.isEmpty
    let _ ← mark ";"

/-- An import of a whole library. -/
def libraryItem : Reading Tokens :=
  inOrder [visibility, word "extern", word "crate",
    do if ← ahead (startsWord "self") then take 1 else nameTokens,
    optionally (startsWord "as")
      (inOrder [take 1, do if ← ahead (startsWord "_") then take 1 else nameTokens]),
    mark ";"]

/-! ## Structures -/

/-- A field with a name. One without a name may have further fields for its type, which stay as they
stand. -/
def namedField (g : Grammar) (further : Reading Tokens) : Reading Tokens := do
  let start ← inOrder [g.attributeTokens, visibility]
  if ← ahead (startsWord "_") then
    let this ← inOrder [take 1, mark ":"]
    if ← ahead fun ts => startsWord "struct" ts ||
        startsWord "union" ts && startsGroup .brace (second ts) then
      return start ++ this ++ (← asWritten (inOrder [take 1, further]))
    else return start ++ this ++ (← g.typeTokens)
  else return start ++ (← inOrder [nameTokens, mark ":", g.typeTokens])

/-- Fields with names, with fields in fields `fuel` levels deep at most. -/
def namedFieldsFor (g : Grammar) (fuel : Nat) : Reading Tokens :=
  match fuel with
  | 0 => throw .tooDeep
  | fuel + 1 => group .brace (commaList (g.namedField (g.namedFieldsFor fuel)))

def namedFields (g : Grammar) : Reading Tokens := do
  g.namedFieldsFor (sizeOfAll ((← rest).take 1) + 1)

/-- Fields without names. -/
def plainFields (g : Grammar) : Reading Tokens :=
  group .paren (commaList (inOrder [g.attributeTokens, visibility, g.typeTokens]))

/-- A structure behind its name and generic parameters. -/
def structBehind (g : Grammar) : Reading Tokens := do
  let conditional ← ahead (startsWord "where")
  let conditions ← g.conditions
  let ts ← rest
  if startsGroup .paren ts && !conditional then
    let fields ← g.plainFields
    let conditional ← ahead (startsWord "where")
    let conditions ← g.conditions
    if ← ahead (startsMark ";") then return fields ++ conditions ++ (← take 1)
    else if conditional then expected "`;`"
    else expectedOneOf ["`where`", "`;`"]
  else if startsGroup .brace ts then return conditions ++ (← g.namedFields)
  else if startsMark ";" ts then return conditions ++ (← take 1)
  else if conditional then expectedOneOf ["curly braces", "`;`"]
  else expectedOneOf ["`where`", "parentheses", "curly braces", "`;`"]

def structItem (g : Grammar) : Reading Tokens :=
  inOrder [visibility, word "struct", nameTokens, g.genericsTokens, g.structBehind]

def unionItem (g : Grammar) : Reading Tokens :=
  inOrder [visibility, word "union", nameTokens, g.genericsTokens, g.conditions, g.namedFields]

/-- A variant of an enumeration; a visibility that it has is not written. -/
def variant (g : Grammar) : Reading Tokens := do
  let attributes ← g.attributeTokens
  let _ ← visibility
  let this ← nameTokens
  let ts ← rest
  let fields ←
    if startsGroup .brace ts then g.namedFields
    else if startsGroup .paren ts then g.plainFields
    else pure []
  return attributes ++ this ++ fields ++ (← g.valueIf)

def enumItem (g : Grammar) : Reading Tokens :=
  inOrder [visibility, word "enum", nameTokens, g.genericsTokens, g.conditions,
    group .brace (commaList g.variant)]

/-! ## Traits -/

/-- A function as a member of a trait. -/
def functionInTrait (g : Grammar) : Reading Tokens := do
  let signature ← g.signature false
  let ts ← rest
  if startsGroup .brace ts then return signature.tokens ++ (← g.functionBody)
  else if startsMark ";" ts then return signature.tokens ++ (← take 1)
  else expectedOneOf ["curly braces", "`;`"]

/-- A constant as a member of a trait. -/
def constantInTrait (g : Grammar) : Reading (Option Tokens) := do
  let (ts, generic, _) ← g.constantItem
  return if generic then none else some ts

def traitMemberBehind (g : Grammar) : Reading (Option Tokens) := do
  let visibility ← visibility
  let default ← wordIf "default"
  let marked := !visibility.isEmpty || !default.isEmpty
  let ts ← rest
  let this ←
    if startsSignature false ts then pure (some (← g.functionInTrait))
    else if startsWord "const" ts then
      let behind := second ts
      if startsName behind || startsWord "_" behind then g.constantInTrait
      else if startsAnyWord ["async", "unsafe", "extern", "fn"] behind then
        pure (some (← g.functionInTrait))
      else
        let _ ← take 1
        expectedOneOf ["identifier", "`_`", "`async`", "`unsafe`", "`extern`", "`fn`"]
    else if startsWord "type" ts then g.typeInTrait
    else if !marked && startsItemCall ts then pure (some (← memberCall))
    else
      expectedOneOf (["`fn`", "`const`", "`type`"] ++ if marked then [] else itemCallStarts)
  return if marked then none else this

def traitMember (g : Grammar) : Reading Tokens :=
  orAsWritten do
    let attributes ← g.attributeTokens
    return (← g.traitMemberBehind).map (attributes ++ ·)

def endsTraits (ts : Tokens) : Bool :=
  startsWord "where" ts || startsGroup .brace ts

/-- A trait behind its name and generic parameters. -/
def traitBehind (g : Grammar) : Reading Tokens :=
  inOrder [do return (← g.boundsBehindColon endsTraits).2, g.conditions, g.body g.traitMember]

/-- A trait, or another name for traits. -/
def traitItem (g : Grammar) : Reading Tokens := do
  let start ← inOrder [visibility, wordIf "unsafe", wordIf "auto", word "trait", nameTokens,
    g.genericsTokens]
  return start ++ (← g.traitBehind)

/-- A trait that is neither unsafe nor automatic, or another name for traits. -/
def traitOrAlias (g : Grammar) : Reading Tokens := do
  let start ← inOrder [visibility, word "trait", nameTokens, g.genericsTokens]
  let ts ← rest
  if startsGroup .brace ts || startsMark ":" ts || startsWord "where" ts then
    return start ++ (← g.traitBehind)
  else if startsMark "=" ts then
    let mark ← take 1
    let bounds ← g.boundsUntil fun ts => startsWord "where" ts || startsMark ";" ts
    return start ++ mark ++ listTokens bounds ++ (← inOrder [g.conditions, Reading.mark ";"])
  else expectedOneOf ["curly braces", "`:`", "`where`", "`=`"]

/-! ## Implementations -/

/-- A function as a member of an implementation; without a body it stays as it stands. -/
def functionMember (g : Grammar) : Reading (Option Tokens) := do
  let start ← inOrder [visibility, wordIf "default"]
  let signature ← g.signature false
  if ← ahead (startsMark ";") then
    let _ ← take 1
    return none
  else return some (start ++ signature.tokens ++ (← g.functionBody))

/-- What follows a visibility, and `default` behind it unless that is called. -/
def defaultedBehind : Reading (Tokens × Bool × Tokens) := do
  let visible ← visibility
  let ts ← rest
  if startsWord "default" ts && !startsMark "!" (second ts) then
    return (visible ++ (← take 1), true, ts.drop 1)
  else return (visible, !visible.isEmpty, ts)

def implMemberBehind (g : Grammar) : Reading (Option Tokens) := do
  let ((start, marked, ts), _) ← preview defaultedBehind
  if startsSignature false ts then g.functionMember
  else if startsWord "const" ts then
    let _ ← defaultedBehind
    return (← g.plainConstant).map (start ++ ·)
  else if startsWord "type" ts then g.typeMember
  else if !marked && startsItemCall ts then return some (← memberCall)
  else
    let _ ← defaultedBehind
    let isDefault := startsWord "default" (start.drop (start.length - 1))
    expectedOneOf
      ((if isDefault then [] else ["`default`"]) ++ ["`fn`", "`const`", "`type`"] ++
        if marked then [] else itemCallStarts)

def implMember (g : Grammar) : Reading Tokens :=
  orAsWritten do
    let attributes ← g.attributeTokens
    return (← g.implMemberBehind).map (attributes ++ ·)

/-- The type that an implementation is for, with the trait that it implements if there is one. Where
that is no path, the implementation stays as it stands. -/
def implSubject (g : Grammar) : Reading (Option Tokens) := do
  let ((polarity, first, isTrait), written) ← withWritten do
    let polarity ← optionally (fun ts => startsMark "!" ts && !startsGroup .brace (second ts)) (take 1)
    let first ← g.type true
    return (polarity, first, match first.form with | .path _ _ => true | _ => false)
  if ← ahead (startsWord "for") then
    let behind ← inOrder [take 1, g.typeTokens]
    return if isTrait then some (polarity ++ first.tokens ++ behind) else none
  else return some (if polarity.isEmpty then first.tokens else written)

def implItem (g : Grammar) : Reading (Option Tokens) := do
  let visible ← visibility
  let start ← inOrder [wordIf "default", wordIf "unsafe", word "impl"]
  let generics ← if ← ahead startsGenerics then g.genericsTokens else pure []
  let constant ← ahead fun ts =>
    startsWord "const" ts || startsMark "?" ts && startsWord "const" (second ts)
  if constant then
    let _ ← inOrder [markIf "?", word "const"]
  let subject ← g.implSubject
  let behind ← inOrder [g.conditions, g.body g.implMember]
  return match subject with
    | some subject =>
      if visible.isEmpty && !constant then some (start ++ generics ++ subject ++ behind) else none
    | none => none

/-! ## Foreign interfaces -/

/-- A function as a member of a foreign interface. -/
def foreignFunction (g : Grammar) : Reading (Option Tokens) := do
  let visible ← visibility
  let safe ← ahead fun ts =>
    startsWord "safe" (behindWord "async" (behindWord "const" ts))
  let signature ← g.signature true
  if ← ahead (startsGroup .brace) then
    let _ ← g.functionBody
    return none
  else
    let stop ← mark ";"
    return if safe then none else some (visible ++ signature.tokens ++ stop)

def foreignStatic (g : Grammar) : Reading (Option Tokens) := do
  let visible ← visibility
  let marks ← optionally (startsAnyWord ["unsafe", "safe"]) (take 1)
  let start ← inOrder [word "static", wordIf "mut", nameTokens, mark ":", g.typeTokens]
  let value ← g.valueIf
  let stop ← mark ";"
  return if marks.isEmpty && value.isEmpty then some (visible ++ start ++ stop) else none

def foreignMemberBehind (g : Grammar) : Reading (Option Tokens) := do
  let (visible, ts) ← preview visibility
  if startsSignature true ts then g.foreignFunction
  else if startsWord "static" ts ||
      startsAnyWord ["unsafe", "safe"] ts && startsWord "static" (second ts) then
    g.foreignStatic
  else if startsWord "type" ts then g.foreignType
  else if visible.isEmpty && startsItemCall ts then return some (← memberCall)
  else
    let _ ← visibility
    expectedOneOf
      (["`fn`", "`static`", "`type`"] ++ if visible.isEmpty then itemCallStarts else [])

def foreignMember (g : Grammar) : Reading Tokens :=
  orAsWritten do
    let attributes ← g.attributeTokens
    return (← g.foreignMemberBehind).map (attributes ++ ·)

def foreignItem (g : Grammar) : Reading Tokens :=
  inOrder [wordIf "unsafe", word "extern", optionally startsString (take 1), g.body g.foreignMember]

/-! ## Modules, and what is defined by its expansion -/

def moduleItem (g : Grammar) : Reading Tokens := do
  let start ← inOrder [visibility, wordIf "unsafe", word "mod",
    do if ← ahead (startsWord "try") then take 1 else nameTokens]
  let ts ← rest
  if startsMark ";" ts then return start ++ (← take 1)
  else if startsGroup .brace ts then return start ++ (← g.body g.item)
  else expectedOneOf ["`;`", "curly braces"]

/-- Something defined by how it is expanded, which stays as it stands. -/
def expandingItem : Reading Unit := do
  let _ ← inOrder [visibility, word "macro", nameTokens]
  let called ← optionally (startsGroup .paren) (take 1)
  if ← ahead (startsGroup .brace) then
    let _ ← take 1
  else if called.isEmpty then expectedOneOf ["parentheses", "curly braces"]
  else expected "curly braces"

/-! ## All items -/

/-- A function; without a body it stays as it stands. -/
def functionItem (g : Grammar) : Reading (Option Tokens) := do
  let visible ← visibility
  let signature ← g.signature false
  if ← ahead (startsMark ";") then
    let _ ← take 1
    return none
  else return some (visible ++ signature.tokens ++ (← g.functionBody))

/-- An item that starts with `extern` behind its visibility. -/
def externItem (g : Grammar) (ts : Tokens) : Reading Tokens := do
  let behind := second ts
  if startsWord "crate" behind then libraryItem
  else if startsGroup .brace behind || startsString behind && startsGroup .brace (third ts) then
    g.foreignItem
  else
    let _ ← visibility
    let _ ← take 1
    if startsString behind then
      let _ ← take 1
      expected "curly braces"
    else expectedOneOf ["`crate`", "curly braces", "string literal"]

/-- An item that starts with `unsafe` behind its visibility. -/
def unsafeItem (g : Grammar) (ts : Tokens) : Reading (Option Tokens) := do
  let behind := second ts
  if startsWord "trait" behind || startsWord "auto" behind && startsWord "trait" (third ts) then
    return some (← g.traitItem)
  else if startsWord "impl" behind then g.implItem
  else if startsWord "extern" behind then return some (← g.foreignItem)
  else if startsWord "mod" behind then return some (← g.moduleItem)
  else
    let _ ← visibility
    let _ ← take 1
    expectedOneOf ["`trait`", "`auto`", "`impl`", "`extern`", "`mod`"]

def itemStarts : List String :=
  ["`fn`", "`extern`", "`use`", "`static`", "`const`", "`unsafe`", "`mod`", "`type`", "`struct`",
    "`enum`", "`union`", "`trait`", "`auto`", "`impl`", "`default`", "`macro`"]

def itemBehind (g : Grammar) : Reading (Option Tokens) := do
  let (visible, ts) ← preview visibility
  let behind := second ts
  if startsSignature false ts then g.functionItem
  else
    match ts with
    | .ident "extern" :: _ => return some (← g.externItem ts)
    | .ident "use" :: _ => return some (← importItem)
    | .ident "static" :: _ => g.staticItem
    | .ident "const" :: _ =>
      let _ ← visibility
      return (← g.plainConstant).map (visible ++ ·)
    | .ident "unsafe" :: _ => g.unsafeItem ts
    | .ident "mod" :: _ => return some (← g.moduleItem)
    | .ident "type" :: _ => g.typeAlias
    | .ident "struct" :: _ => return some (← g.structItem)
    | .ident "enum" :: _ => return some (← g.enumItem)
    | .ident "trait" :: _ => return some (← g.traitOrAlias)
    | .ident "impl" :: _ => g.implItem
    | .ident "macro" :: _ =>
      expandingItem
      return none
    | _ =>
      if startsWord "union" ts && startsName behind then return some (← g.unionItem)
      else if startsWord "auto" ts && startsWord "trait" behind then return some (← g.traitItem)
      else if startsWord "default" ts && !startsMark "!" behind then g.implItem
      else if visible.isEmpty && startsItemCall ts then return some (← itemCall)
      else
        let _ ← visibility
        expectedOneOf (itemStarts ++ if visible.isEmpty then itemCallStarts else [])

def readItem (g : Grammar) : Reading Tokens :=
  orAsWritten do
    let attributes ← g.attributeTokens
    return (← g.itemBehind).map (attributes ++ ·)

end Grammar

end ScreenRoutes
