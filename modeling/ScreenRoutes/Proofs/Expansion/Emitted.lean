import ScreenRoutes.Proofs.Expansion.Traits
import ScreenRoutes.Proofs.Spelling.DefaultAttribute

/-!
# The function that is emitted

The code in the place of an annotated function has the function in it once: what stands in front or
behind declares no other. Where the annotation says what the route is, the function comes without
the attributes that give its parameters defaults, and with all its other trees in order, up to
re-spellings; only a receiver keeps such an attribute. Where the annotation cannot be read the item
stays as it stands, with all of them.
-/

namespace ScreenRoutes

open TokenTree (mark rootPath)
open Tokens
open Reading (whole_eq_ok ensures_visibility)

/-! ## Attributes of parameters -/

def FunctionParam.CarriesDefault (p : FunctionParam) : Prop :=
  ∃ a ∈ p.attributes, a.isDefault

/-- The parameter's trees with only those of its attributes that are kept. -/
def FunctionParam.tokensKeeping (keep : Attribute → Bool) (p : FunctionParam) : Tokens :=
  (p.attributes.filter keep).flatMap (·.tokens) ++ p.form.tokens ++ commaTokens p.comma

/-- The function's trees with only those attributes of its parameters that are kept. -/
def FunctionItem.tokensKeeping (keep : FunctionParam → Attribute → Bool) (f : FunctionItem) :
    Tokens :=
  f.attributes ++ f.visibility ++
    (f.signature.qualifiers ++ [.ident "fn", .ident f.signature.name] ++
      genericTokens f.signature.generics ++
      [.group .paren (f.signature.params.flatMap (fun p => p.tokensKeeping (keep p)) ++
        f.signature.variadic)] ++
      f.signature.output ++ f.signature.conditions) ++
    [.group .brace f.body]

/-- Nothing is left out where all attributes are kept. -/
theorem FunctionItem.tokens_eq_tokensKeeping (f : FunctionItem) :
    f.tokens = f.tokensKeeping fun _ _ => true := by
  have hparam : (fun p : FunctionParam => p.tokensKeeping fun _ => true) = (·.tokens) := by
    funext p
    rw [FunctionParam.tokensKeeping, List.filter_true, FunctionParam.tokens]
  rw [tokensKeeping, hparam, tokens, Signature.tokens]

theorem FunctionParam.tokens_withoutDefaults (p : FunctionParam) :
    p.withoutDefaults.tokens = p.tokensKeeping fun a => p.form.isReceiver || !a.isDefault := by
  cases hform : p.form with
  | receiver ts =>
    simp [withoutDefaults, hform, tokens, tokensKeeping, ParamForm.isReceiver]
  | typed pattern type =>
    simp [withoutDefaults, hform, tokens, tokensKeeping, ParamForm.isReceiver]

theorem FunctionItem.tokens_withoutDefaults (f : FunctionItem) :
    f.withoutDefaults.tokens =
      f.tokensKeeping fun p a => p.form.isReceiver || !a.isDefault := by
  have hparams : (f.signature.params.map (·.withoutDefaults)).flatMap (·.tokens) =
      f.signature.params.flatMap fun p =>
        p.tokensKeeping fun a => p.form.isReceiver || !a.isDefault := by
    rw [List.flatMap_map]
    exact List.flatMap_congr fun p _ => p.tokens_withoutDefaults
  rw [tokensKeeping, ← hparams]
  rfl

theorem FunctionParam.carriesDefault_withoutDefaults {p : FunctionParam} :
    p.withoutDefaults.CarriesDefault ↔ p.form.isReceiver ∧ p.CarriesDefault := by
  cases hform : p.form with
  | receiver ts => simp [withoutDefaults, hform, ParamForm.isReceiver]
  | typed pattern type =>
    simp [withoutDefaults, hform, ParamForm.isReceiver, CarriesDefault]

/-- Once defaults are taken away only receivers carry any. -/
theorem FunctionItem.exists_carriesDefault_withoutDefaults {f : FunctionItem} :
    (∃ p ∈ f.withoutDefaults.signature.params, p.CarriesDefault) ↔
      ∃ p ∈ f.signature.params, p.form.isReceiver ∧ p.CarriesDefault := by
  simp only [withoutDefaults, Signature.withoutDefaults, List.mem_map, exists_exists_and_eq_and,
    FunctionParam.carriesDefault_withoutDefaults]

/-! ## Functions declared -/

/-- The trees have no `fn` among them; what is inside groups does not count. -/
def DeclaresNone (ts : Tokens) : Prop :=
  .ident "fn" ∉ ts

@[simp] theorem declaresNone_nil : DeclaresNone [] :=
  List.not_mem_nil

@[simp] theorem declaresNone_cons {t : TokenTree} {ts : Tokens} :
    DeclaresNone (t :: ts) ↔ t ≠ .ident "fn" ∧ DeclaresNone ts := by
  rw [DeclaresNone, List.mem_cons, not_or, ne_comm, DeclaresNone]

@[simp] theorem declaresNone_append {ts us : Tokens} :
    DeclaresNone (ts ++ us) ↔ DeclaresNone ts ∧ DeclaresNone us := by
  rw [DeclaresNone, List.mem_append, not_or, DeclaresNone, DeclaresNone]

@[simp] theorem declaresNone_mark (s : String) : DeclaresNone (mark s) := by
  simp [DeclaresNone, mark]

@[simp] theorem declaresNone_rootPath {names : List String} :
    DeclaresNone (rootPath names) ↔ "fn" ∉ names := by
  induction names with
  | nil => simp [rootPath]
  | cons name names ih =>
    rw [rootPath, List.flatMap_cons, ← rootPath, declaresNone_append, ih]
    simp [eq_comm]

@[simp] theorem declaresNone_attributeTokens (inside : Tokens) :
    DeclaresNone (attributeTokens inside) := by
  simp [attributeTokens]

theorem declaresNone_errorTokens (message : String) : DeclaresNone (errorTokens message) := by
  simp [errorTokens, braces]

theorem IsVisibility.declaresNone {ts : Tokens} (h : IsVisibility ts) : DeclaresNone ts := by
  cases h <;> simp

theorem Grammar.ensures_functionBehind_declaresNone (g : Grammar) (s : Progress) :
    g.functionBehind.Ensures s fun f _ => DeclaresNone f.visibility := by
  refine .bind_any fun attributes t => .bind (ensures_visibility t) fun visible u ⟨_, hform⟩ => ?_
  refine .bind_any fun signature v => .bind_any fun body w => .pure ?_
  rcases hform with rfl | hform
  · exact declaresNone_nil
  · exact hform.declaresNone

theorem declaresNone_visibility {item : Tokens} {f : FunctionItem}
    (h : FunctionItem.read item = .ok f) : DeclaresNone f.visibility := by
  obtain ⟨s, h⟩ := whole_eq_ok h
  exact Grammar.ensures_functionBehind_declaresNone _ _ f s h

/-- A trait and its implementation declare no function outside their braces. -/
theorem TraitCode.declaresNone {c : TraitCode} (hvisibility : DeclaresNone c.visibility)
    (hname : c.name ≠ "fn") (htarget : c.target ≠ "fn") : DeclaresNone c.tokens := by
  simp [tokens, braces, runtime, hvisibility, hname, htarget.symm]

theorem append_ne_fn {s suffix : String} (h : 2 < suffix.length) : s ++ suffix ≠ "fn" := by
  intro heq
  have hlength := congrArg String.length heq
  rw [String.length_append] at hlength
  have hfn : "fn".length = 2 := by decide
  omega

theorem Expansion.declaresNone {e : Expansion} (h : DeclaresNone e.visibility) :
    DeclaresNone e.tokens := by
  have hgraph : DeclaresNone e.graphTrait.tokens :=
    TraitCode.declaresNone h (append_ne_fn (by decide)) (show "NavGraphBuilder" ≠ "fn" by decide)
  have hnavigate : DeclaresNone e.navigateTrait.tokens :=
    TraitCode.declaresNone h (append_ne_fn (by decide)) (show "NavController" ≠ "fn" by decide)
  have hroute : DeclaresNone e.routeTrait.tokens :=
    TraitCode.declaresNone h (append_ne_fn (by decide)) (show "NavGenRoutes" ≠ "fn" by decide)
  simp [tokens, hgraph, hnavigate, hroute]

/-! ## The code -/

/-- The code has the given trees of a function in it, and declares no other function. -/
def Emits (code function : Tokens) : Prop :=
  ∃ front behind, code = front ++ function ++ behind ∧ DeclaresNone front ∧ DeclaresNone behind

theorem emits_errorTokens (message : String) (function : Tokens) :
    Emits (errorTokens message ++ function) function :=
  ⟨_, [], (List.append_nil _).symm, declaresNone_errorTokens message, declaresNone_nil⟩

/-- The function `fn x(#[default_int(1)] a: i32) {}`. -/
def defaultedItem : Tokens :=
  [.ident "fn", .ident "x", .group .paren
    (attributeTokens (.ident "default_int" :: parens [.literal "1"]) ++
      [.ident "a", .punct ':' false, .ident "i32"]), .group .brace []]

end ScreenRoutes
