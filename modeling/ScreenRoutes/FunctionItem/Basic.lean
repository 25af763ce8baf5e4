import ScreenRoutes.Grammar.Signature

/-!
# Function items

A function as it is declared: attributes, visibility, signature and body. `FunctionItem.tokens`
writes it out again; a parameter is written with the attributes that it still has.

| here | there |
| --- | --- |
| `FunctionItem`, `Signature` | `ItemFn`, with its tokens |
| `defaultAttributes`, `Attribute.isDefault` | `DEFAULT_ATTRS`, `is_default_attr` |
| `withoutDefaults`, `defaults` | `strip_default_attrs` |
-/

namespace ScreenRoutes

/-- A function. The body's trees are those between its braces. -/
structure FunctionItem where
  attributes : Tokens
  visibility : Tokens
  signature : Signature
  body : Tokens

def FunctionItem.tokens (f : FunctionItem) : Tokens :=
  f.attributes ++ f.visibility ++ f.signature.tokens ++ [.group .brace f.body]

/-! ## Defaults -/

def defaultAttributes : List String :=
  ["default_string", "default_int", "default_bool"]

def Attribute.isDefault (a : Attribute) : Bool :=
  a.name.any defaultAttributes.contains

/-- The attributes that give the parameter a default; a receiver takes none. -/
def FunctionParam.defaults (p : FunctionParam) : List Attribute :=
  match p.form with
  | .receiver _ => []
  | .typed .. => p.attributes.filter (·.isDefault)

/-- The parameter without the attributes that give it a default; a receiver keeps all it has. -/
def FunctionParam.withoutDefaults (p : FunctionParam) : FunctionParam :=
  match p.form with
  | .receiver _ => p
  | .typed .. => { p with attributes := p.attributes.filter (!·.isDefault) }

def Signature.withoutDefaults (s : Signature) : Signature :=
  { s with params := s.params.map (·.withoutDefaults) }

def FunctionItem.withoutDefaults (f : FunctionItem) : FunctionItem :=
  { f with signature := f.signature.withoutDefaults }

end ScreenRoutes
