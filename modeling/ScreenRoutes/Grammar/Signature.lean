import ScreenRoutes.Grammar.Statement

/-!
# Signatures of functions

What stands between a function's visibility and its body. `Signature.tokens` writes it out again; a
parameter is written with the attributes that it still has.
-/

namespace ScreenRoutes

open Reading Tokens

inductive ParamForm where
  | receiver (tokens : Tokens)
  | typed (pattern : PatternText) (type : TypeText)

/-- A parameter with its attributes, and the comma behind it if there is one. -/
structure FunctionParam where
  attributes : List Attribute
  form : ParamForm
  comma : Bool

/-- The parameter's own trees behind its attributes. -/
def ParamForm.tokens : ParamForm → Tokens
  | .receiver ts => ts
  | .typed pattern type => pattern.tokens ++ .punct ':' false :: type.tokens

def ParamForm.isReceiver : ParamForm → Bool
  | .receiver _ => true
  | .typed .. => false

def FunctionParam.tokens (p : FunctionParam) : Tokens :=
  p.attributes.flatMap (·.tokens) ++ p.form.tokens ++ commaTokens p.comma

/-- A signature. The qualifiers are what stands in front of `fn`. -/
structure Signature where
  qualifiers : Tokens
  isAsync : Bool
  name : String
  generics : List AngledItem
  params : List FunctionParam
  variadic : Tokens
  output : Tokens
  conditions : Tokens

def Signature.tokens (s : Signature) : Tokens :=
  s.qualifiers ++ [.ident "fn", .ident s.name] ++ genericTokens s.generics ++
    [.group .paren (s.params.flatMap (·.tokens) ++ s.variadic)] ++ s.output ++ s.conditions

namespace Grammar

/-! ## Parameters -/

def receiver (g : Grammar) : Reading Tokens := do
  let ampersand ← markIf "&"
  let start ← if ampersand.isEmpty then pure [] else lifetimeIf
  let this ← inOrder [wordIf "mut", word "self"]
  let type ←
    if ampersand.isEmpty then optionally (startsMark ":") (inOrder [take 1, g.typeTokens])
    else pure []
  return ampersand ++ start ++ this ++ type

/-- A parameter, or the name of variadic ones with the colon behind it. A type with generic
arguments may stand alone, as if for a parameter that is not looked at. -/
def paramForm (g : Grammar) : Reading (Except Tokens ParamForm) := do
  match ← attempt g.receiver with
  | some this => return .ok (.receiver this)
  | none =>
    if ← ahead fun ts => startsName ts && startsMark "<" (second ts) then
      return .ok (.typed (plainPattern [.ident "_"]) (← g.type true))
    else
      let pattern ← g.pattern
      let colon ← mark ":"
      if ← ahead (startsMark "...") then return .error (pattern.tokens ++ colon)
      else return .ok (.typed pattern (← g.type true))

/-- Variadic parameters behind their attributes and name. -/
def variadicBehind (start : Tokens) : Reading Tokens := do
  let dots ← mark "..."
  return start ++ dots ++ (← optionally (!·.isEmpty) (mark ","))

/-- The parameters to the end, and the variadic ones behind them; `seen` holds the parameters before
these, the latest first. -/
def paramsFor (g : Grammar) (fuel : Nat) (seen : List FunctionParam) :
    Reading (List FunctionParam × Tokens) :=
  match fuel with
  | 0 => return (seen.reverse, [])
  | fuel + 1 => do
    if ← ahead List.isEmpty then return (seen.reverse, [])
    let attributes ← g.attributes
    let written := attributes.flatMap (·.tokens)
    if ← ahead (startsMark "...") then return (seen.reverse, ← variadicBehind written)
    else
      match ← g.paramForm with
      | .error name => return (seen.reverse, ← variadicBehind (written ++ name))
      | .ok form =>
        if form.isReceiver && seen.any (·.form.isReceiver) then throw .secondReceiver
        else if form.isReceiver && !seen.isEmpty then throw .lateReceiver
        else if ← ahead List.isEmpty then
          return ((⟨attributes, form, false⟩ :: seen).reverse, [])
        else
          let _ ← mark ","
          g.paramsFor fuel (⟨attributes, form, true⟩ :: seen)

def params (g : Grammar) : Reading (List FunctionParam × Tokens) :=
  inside .paren (do g.paramsFor ((← rest).length + 1) [])

/-! ## Signatures -/

/-- The trees behind a word, if they start with it. -/
def behindWord (w : String) (ts : Tokens) : Tokens :=
  if startsWord w ts then ts.drop 1 else ts

def behindConvention (ts : Tokens) : Tokens :=
  if startsWord "extern" ts then
    if startsString (ts.drop 1) then ts.drop 2 else ts.drop 1
  else ts

/-- Whether the trees start with a signature; with `safe` it may be marked so. -/
def startsSignature (safe : Bool) (ts : Tokens) : Bool :=
  let ts := behindWord "async" (behindWord "const" ts)
  let ts := if safe && startsWord "safe" ts then ts.drop 1 else behindWord "unsafe" ts
  startsWord "fn" (behindConvention ts)

def signature (g : Grammar) (safe : Bool) : Reading Signature := do
  let const ← wordIf "const"
  let async ← wordIf "async"
  let safety ← if safe && (← ahead (startsWord "safe")) then take 1 else wordIf "unsafe"
  let convention ← convention
  let _ ← word "fn"
  let called ← name
  let generics ← g.generics
  let (params, variadic) ← g.params
  let output ← g.output true
  let conditions ← g.conditions
  return ⟨const ++ async ++ safety ++ convention, !async.isEmpty, called, generics, params,
    variadic, output, conditions⟩

end Grammar

end ScreenRoutes
