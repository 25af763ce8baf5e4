import ScreenRoutes.Grammar.Signature
import ScreenRoutes.Proofs.Grammar.LiteralForm

/-!
# Re-spelling

Code that is read and written again has its normal spelling. `Respelling` lists all that this may
change, a constructor for each way in which the two may differ; nothing else differs between trees
that stand in `Respells`. Whether a change is one of these is told by what stands behind the trees,
and for items in a group by what leads to it.
-/

namespace ScreenRoutes

open TokenTree (mark)
open Tokens
open Grammar

/-! ## What stands in front -/

/-- What stands in front of the parameters of a function, from its `fn` on. -/
def LeadsParams (lead : Tokens) : Prop :=
  ∃ name generics, lead = [.ident "fn", .ident name] ++ genericTokens generics

/-- What stands in front of the variants of an enumeration, from its `enum` on. -/
def LeadsVariants (lead : Tokens) : Prop :=
  ∃ name more, lead = [.ident "enum", .ident name] ++ more

/-- Whether an item of a list may come next: none stands in front, or one with a comma behind it. -/
def ReachesItem (items : Tokens) : Prop :=
  items = [] ∨ ∃ front joint, items = front ++ [.punct ',' joint]

theorem ReachesItem.of_comma (front : Tokens) (joint : Bool) :
    ReachesItem (front ++ [.punct ',' joint]) :=
  .inr ⟨front, joint, rfl⟩

/-! ## What stands behind -/

def endsBounds (ts : Tokens) : Bool :=
  ts.isEmpty || startsAnyMark [",", ">", "=", ";"] ts || startsWord "where" ts ||
    startsGroup .brace ts

/-- Whether the arguments of a called path come next. -/
def startsCall (ts : Tokens) : Bool :=
  startsGroup .paren ts || startsMark "::" ts && startsGroup .paren (third ts)

/-- Whether the name of a variant comes next, with its fields, its value or nothing behind it. -/
def startsVariant (ts : Tokens) : Bool :=
  startsName ts &&
    (ts.tail.isEmpty || startsAnyMark [",", "="] ts.tail || startsGroup .paren ts.tail ||
      startsGroup .brace ts.tail)

/-- Trees that start, behind attributes or without any, with a pattern or an expression that takes
none. -/
def StartsFixed (ts : Tokens) : Prop :=
  ∃ attributes more, AttributeRun attributes ∧ ts = attributes ++ more ∧
    (startsAnyWord ["box", "become"] more ∨ startsWord "builtin" more ∧ startsMark "#" (second more))

namespace StartsFixed

variable {ts : Tokens}

theorem of_word {w : String} (hw : ["box", "become"].contains w) (h : startsWord w ts) :
    StartsFixed ts := by
  refine ⟨[], ts, .nil, rfl, .inl ?_⟩
  unfold startsWord at h
  split at h
  · rw [beq_iff_eq] at h
    rw [h]
    exact hw
  · cases h

theorem behind_attributes {attributes : Tokens} (hattributes : AttributeRun attributes)
    (h : StartsFixed ts) : StartsFixed (attributes ++ ts) := by
  obtain ⟨more, rear, hmore, rfl, hfixed⟩ := h
  exact ⟨attributes ++ more, rear, hattributes.append hmore, (List.append_assoc ..).symm, hfixed⟩

end StartsFixed

/-- Trees that start with a lifetime, behind attributes or without any. -/
def StartsLifetime (ts : Tokens) : Prop :=
  ∃ attributes more, AttributeRun attributes ∧ ts = attributes ++ more ∧ startsLifetime more

theorem startsLifetime_append {ts : Tokens} (us : Tokens) (h : startsLifetime ts) :
    startsLifetime (ts ++ us) := by
  unfold startsLifetime at h
  split at h
  · rfl
  · cases h

theorem StartsLifetime.of_start {ts : Tokens} (h : startsLifetime ts) : StartsLifetime ts :=
  ⟨[], ts, .nil, rfl, h⟩

/-- The marks that are written so that they are not joined to what follows. -/
def unjoinedMarks : List String :=
  ["<", ">", ":", "::", ",", ";"]

/-- A visibility that is not left out. -/
inductive IsVisibility : Tokens → Prop
  | plain : IsVisibility [.ident "pub"]
  | restricted {inside : Tokens} : IsVisibility [.ident "pub", .group .paren inside]

def pointed (indices : List Nat) : Tokens :=
  ((indices.map fun n => [.literal (toString n)]).intersperse (mark ".")).flatten

/-! ## Re-spellings -/

/-- The ways in which the first trees, with the given ones behind them, are written as the second
ones.

- `joint`: a mark is not joined to what follows;
- `angled`: lifetimes come first between angle brackets, with a comma behind the last of them;
- `emptyParameters`, `emptyConditions`, `emptyBounds`: angle brackets, `where`, and the colon of
  bounds are left out where nothing is in them or behind them;
- `emptyArguments`, `calledColons`: so are empty angle brackets and the `::` in front of the
  arguments of a called path;
- `relaxed`: a relaxed bound has one pair of parentheses;
- `binder`: lifetimes that hold for the call of what stands for a type are left out;
- `field`, `index`, `fraction`: the number of a field is a decimal one in front of its value, and
  behind a point, also where two numbers were one fraction;
- `rangeMark`: the range of a pattern has `..=` for `...`;
- `attributes`: attributes are left out in front of what takes none;
- `anonymous`: a parameter of a function that is only a type gets the name `_`;
- `visibility`: the visibility of a variant of an enumeration is left out. -/
inductive Respelling (behind : Tokens) : Tokens → Tokens → Prop
  | joint {m : String} {ts : Tokens} : m ∈ unjoinedMarks → startsMark m ts →
    Respelling behind (ts.take m.length) (mark m)
  | angled (items : List AngledItem) :
    (∀ i ∈ items, i.kind = .lifetime → StartsLifetime i.tokens) →
    (∀ i ∈ items.dropLast, i.comma) →
    Respelling behind (mark "<" ++ items.flatMap (·.written) ++ mark ">") (angledTokens items)
  | emptyParameters : Respelling behind (mark "<" ++ mark ">") []
  | emptyConditions : endsCondition behind → Respelling behind [.ident "where"] []
  | emptyBounds : endsBounds behind → Respelling behind (mark ":") []
  | emptyArguments {turbofish : Bool} : startsCall behind →
    Respelling behind ((if turbofish then segmentMark else []) ++ mark "<" ++ mark ">") []
  | calledColons : startsGroup .paren behind → Respelling behind segmentMark []
  | relaxed {bare : Tokens} : startsMark "?" bare → startsMark "+" behind →
    Respelling behind [.group .paren [.group .paren bare]] [.group .paren bare]
  | binder {params : Tokens} {path : Path} {joint : Bool} {d : Delimiter} {inside : Tokens} :
    path.isPlain →
    Respelling behind (.ident "for" :: mark "<" ++ params ++ mark ">" ++ path.tokens ++
      [.punct '!' joint, .group d inside]) (path.tokens ++ [.punct '!' joint, .group d inside])
  | field {text : String} {n : Nat} : integerParts? text = some (n, []) → startsMark ":" behind →
    Respelling behind [.literal text] [.literal (toString n)]
  | index {text : String} {n : Nat} {joint : Bool} : integerParts? text = some (n, []) →
    Respelling behind [.punct '.' joint, .literal text] [.punct '.' joint, .literal (toString n)]
  | fraction (stops : Bool) {text : String} {joint : Bool} {parts : List String}
    {indices : List Nat} :
    text.splitOn "." = parts ++ (if stops then [""] else []) →
    parts.map integerParts? = indices.map (fun n => some (n, [])) →
    Respelling behind [.punct '.' joint, .literal text]
      (.punct '.' joint :: (pointed indices ++ if stops then mark "." else []))
  | rangeMark {ts : Tokens} : startsMark "..." ts → ¬ endsOpenRange behind →
    Respelling behind (ts.take 3) (mark "..=")
  | attributes {attributes : Tokens} : AttributeRun attributes → StartsFixed behind →
    Respelling behind attributes []
  | anonymous {lead items attributes rear : Tokens} :
    LeadsParams lead → ReachesItem items → AttributeRun attributes →
    startsName rear → startsMark "<" (second rear) →
    Respelling behind (lead ++ [.group .paren (items ++ attributes ++ rear)])
      (lead ++ [.group .paren (items ++ attributes ++ [.ident "_", .punct ':' false] ++ rear)])
  | visibility {lead items attributes visibility rear : Tokens} :
    LeadsVariants lead → ReachesItem items → AttributeRun attributes →
    IsVisibility visibility → startsVariant rear →
    Respelling behind (lead ++ [.group .brace (items ++ attributes ++ visibility ++ rear)])
      (lead ++ [.group .brace (items ++ attributes ++ rear)])

/-- The first trees, with the given ones behind them, are the second ones up to re-spellings. -/
inductive Respells : Tokens → Tokens → Tokens → Prop
  | refl (behind ts : Tokens) : Respells behind ts ts
  | of {behind ts us : Tokens} : Respelling behind ts us → Respells behind ts us
  | group {behind ts us : Tokens} (d : Delimiter) : Respells [] ts us →
    Respells behind [.group d ts] [.group d us]
  | append {behind ts ts' us us' : Tokens} : Respells (ts' ++ behind) ts us →
    Respells behind ts' us' → Respells behind (ts ++ ts') (us ++ us')
  | trans {behind ts us vs : Tokens} : Respells behind ts us → Respells behind us vs →
    Respells behind ts vs

namespace Respells

variable {behind ts us : Tokens}

/-- What stands in front stays. -/
theorem append_left (front : Tokens) (h : Respells behind ts us) :
    Respells behind (front ++ ts) (front ++ us) :=
  .append (.refl _ front) h

/-- What follows stays. -/
theorem append_right (rear : Tokens) (h : Respells (rear ++ behind) ts us) :
    Respells behind (ts ++ rear) (us ++ rear) :=
  .append h (.refl _ rear)

end Respells

end ScreenRoutes
