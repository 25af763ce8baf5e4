import ScreenRoutes.Proofs.Spelling.Reading

/-!
# Attributes, visibility and plain paths

What is nested in other code is written as it is taken at every depth (`Grammar.Faithful`); here this
is assumed, and what is made of such code is shown to be written so too.
-/

namespace ScreenRoutes

open Reading Tokens

/-! ## Nested code -/

/-- Whether an expression was taken as it is written, and takes no attributes only where what it
starts with takes none. -/
def TookExpr (s : Progress) (e : ExprText) (t : Progress) : Prop :=
  Took s e.tokens t ∧ (e.fixed → StartsFixed s.rest)

/-- Whether an expression goes on from the given one as it is written. -/
def TookBehind (left : ExprText) (s : Progress) (e : ExprText) (t : Progress) : Prop :=
  ∃ more, e.tokens = left.tokens ++ more ∧ Took s more t ∧ (e.fixed → left.fixed)

/-- Whether a type is written as the bound that it is, if it is one, or has that between
parentheses and it is relaxed. -/
def TypeText.KeepsBound (e : TypeText) : Prop :=
  ∀ bare, e.bare? = some bare →
    e.tokens = bare ∨ e.tokens = [.group .paren bare] ∧ startsMark "?" bare

/-- Whether a type was taken as it is written, and keeps the bound that it is. -/
def TookType (s : Progress) (e : TypeText) (t : Progress) : Prop :=
  Took s e.tokens t ∧ e.KeepsBound

/-- Whether a pattern was taken as it is written, and is fixed only where what it starts with is. -/
def TookPattern (s : Progress) (e : PatternText) (t : Progress) : Prop :=
  Took s e.tokens t ∧ (e.form = .fixed → StartsFixed s.rest)

theorem TookExpr.behind {s t u : Progress} {left e : ExprText} (h : TookExpr s left t)
    (hmore : TookBehind left t e u) : TookExpr s e u := by
  obtain ⟨more, htokens, htook, hfixed⟩ := hmore
  refine ⟨?_, fun h' => h.2 (hfixed h')⟩
  rw [htokens]
  exact h.1.append htook

theorem TookBehind.refl (left : ExprText) (s : Progress) : TookBehind left s left s :=
  ⟨[], (List.append_nil _).symm, .refl s, id⟩

theorem TookBehind.trans {s t u : Progress} {left e e' : ExprText} (h : TookBehind left s e t)
    (hmore : TookBehind e t e' u) : TookBehind left s e' u := by
  obtain ⟨more, htokens, htook, hfixed⟩ := h
  obtain ⟨more', htokens', htook', hfixed'⟩ := hmore
  refine ⟨more ++ more', ?_, htook.append htook', hfixed ∘ hfixed'⟩
  rw [htokens', htokens, List.append_assoc]

/-- Going on with trees, after which an expression takes attributes if it did before. -/
theorem TookBehind.of_took {s t : Progress} {left : ExprText} {more : Tokens} {form : ExprForm}
    {fixed : Bool} (h : Took s more t) (hfixed : fixed → left.fixed) :
    TookBehind left s ⟨left.tokens ++ more, form, fixed⟩ t :=
  ⟨more, rfl, h, hfixed⟩

/-- Whether attributes were taken as they are written. -/
def TookAttributes (s : Progress) (attributes : Tokens) (t : Progress) : Prop :=
  Took s attributes t ∧ AttributeRun attributes ∧ TakesAttributes s t

theorem TookAttributes.refl (s : Progress) : TookAttributes s [] s :=
  ⟨.refl s, .nil, .refl s⟩

/-- What takes no attributes takes none behind attributes either. -/
theorem TookAttributes.startsFixed {s t : Progress} {attributes : Tokens}
    (h : TookAttributes s attributes t) (hfixed : StartsFixed t.rest) : StartsFixed s.rest := by
  obtain ⟨-, -, taken, htaken, hs⟩ := h
  rw [hs]
  exact hfixed.behind_attributes htaken

/-- Attributes stand in front of an expression unless it takes none. -/
theorem TookExpr.withAttributes {s t u : Progress} {attributes : Tokens} {e : ExprText}
    (h : TookAttributes s attributes t) (he : TookExpr t e u) :
    TookExpr s (e.withAttributes attributes) u := by
  unfold ExprText.withAttributes
  split
  · next hfixed =>
    have hstarts := he.2 hfixed
    have hnone : Took s [] t := h.1.leftOut (.of (.attributes h.2.1 hstarts))
    exact ⟨hnone.append he.1, fun _ => h.startsFixed hstarts⟩
  · next hfixed => exact ⟨h.1.append he.1, fun h' => absurd h' hfixed⟩

/-- Whether all readings of nested code write what they take. -/
structure Grammar.Faithful (g : Grammar) : Prop where
  type (plus : Bool) (s : Progress) : (g.type plus).Ensures s (TookType s)
  bound (capture constant : Bool) : (g.bound capture constant).WritesAs (·.tokens)
  pattern (s : Progress) : g.pattern.Ensures s (TookPattern s)
  expr (fields : Bool) : (g.expr fields).WritesAs (·.tokens)
  operand (fields : Bool) (s : Progress) : (g.operand fields).Ensures s (TookExpr s)
  operators (fields : Bool) (base : Precedence) (left : ExprText) (s : Progress) :
    (g.operators fields base left).Ensures s (TookBehind left s)
  statement (s : Progress) : g.statement.Ensures s (TookExpr s)
  statements : g.statements.Writes
  item : g.item.Writes

namespace Reading

/-! ## Plain paths and visibility -/

theorem writes_plainPath : plainPath.Writes := by
  intro s
  refine .bind (Writes.markIf "::" s) fun root t hroot => ?_
  refine .bind_took hroot (WritesAs.listTokens (.take 1)) fun segments u hsegments => ?_
  split
  · next hnone =>
    rw [List.getLast?_eq_none_iff.1 hnone, listTokens, List.flatMap_nil, List.append_nil] at hsegments
    exact .bind_writes hsegments .nameTokens fun ts v hts => .pure hts
  · exact .pure hsegments
  · exact .expected

/-- A visibility is written as it is taken, if there is one. -/
theorem ensures_visibility (s : Progress) :
    visibility.Ensures s fun ts t => Took s ts t ∧ (ts = [] ∨ IsVisibility ts) := by
  have hrestriction : (inOrder [take 1, plainPath]).Writes := .inOrder ⟨.take 1, writes_plainPath⟩
  refine .bind_ahead (.ite (fun hpub => ?_) fun _ => .pure ⟨.refl s, .inl rfl⟩)
  refine .bind (ensures_take_word hpub) ?_
  rintro _ t ⟨rfl, hword⟩
  refine .bind_rest ?_
  split
  · next w more hrest =>
    refine .ite (fun _ => .bind (ensures_take 1 t) ?_) fun _ => .pure ⟨hword, .inr .plain⟩
    rintro _ u ⟨rfl, htook⟩
    refine .pure ⟨hword.append htook, .inr ?_⟩
    rw [hrest]
    exact .restricted
  · refine .bind (ensures_group .paren hrestriction t) ?_
    rintro _ u ⟨htook, -, inside, rfl⟩
    exact .pure ⟨hword.append htook, .inr .restricted⟩
  · exact .pure ⟨hword, .inr .plain⟩

theorem writes_visibility : visibility.Writes :=
  fun s => (ensures_visibility s).mono fun _ _ h => h.1

end Reading

namespace Grammar

variable {g : Grammar}

namespace Faithful

variable (hg : g.Faithful)

include hg

/-! ## Trees of nested code -/

theorem typeTokens : g.typeTokens.Writes :=
  fun s => .bind (hg.type true s) fun _ _ h => .pure h.1

theorem exprTokens : g.exprTokens.Writes :=
  fun s => .bind (hg.expr true s) fun _ _ h => .pure h

theorem boundTokens (capture constant : Bool) : (g.boundTokens capture constant).Writes :=
  fun s => .bind (hg.bound capture constant s) fun _ _ h => .pure h

theorem patternTokens : g.patternTokens.Writes :=
  fun s => .bind (hg.pattern s) fun _ _ h => .pure h.1

theorem block : g.block.Writes :=
  .group .brace hg.statements

/-! ## Attributes -/

theorem attributeValue : g.attributeValue.Writes := by
  intro s
  refine .bind_rest (.bind_foresee fun found => ?_)
  split
  · exact Writes.literal s
  · exact .ite (fun _ => .throw) fun _ => hg.exprTokens s

theorem attributeInside : g.attributeInside.WritesAs (·.tokens) := by
  intro s
  refine .bind_ahead (.bind_branch (fun _ => Writes.take 1 s) (fun _ => writes_plainPath s) ?_)
  intro path t hpath
  refine .bind_rest ?_
  split
  · exact .bind_writes hpath (.take 1) fun ts u hts => .pure hts
  · refine .ite (fun _ => ?_) fun _ => .pure hpath
    refine .bind_writes hpath (.take 1) fun equals u hequals => ?_
    exact .bind_writes hequals hg.attributeValue fun value v hvalue => .pure hvalue

theorem oneAttribute (n : Nat) :
    (do g.attributeBehind (← take n) : Reading Attribute).WritesAs (·.tokens) := by
  intro s
  refine .bind (Writes.take n s) fun start t hstart => ?_
  refine .bind (WritesAs.inside .bracket hg.attributeInside t) fun a u ha => .pure ?_
  exact hstart.append ha

theorem attributes : g.attributes.WritesAs fun found => found.flatMap (·.tokens) :=
  .repeatWhile fun s _ => hg.oneAttribute 1 s

theorem attributeTokens : g.attributeTokens.Writes :=
  fun s => .bind (hg.attributes s) fun _ _ h => .pure h

omit hg in
/-- An attribute is a group between brackets behind `#`. -/
theorem ensures_oneAttribute {s : Progress} (h : startsMark "#" s.rest) :
    (do g.attributeBehind (← take 1) : Reading Attribute).Ensures s fun a _ =>
      ∃ joint inside, a.tokens = [.punct '#' joint, .group .bracket inside] := by
  obtain ⟨joint, more, hrest⟩ := exists_of_startsMark rfl h
  refine .bind_take (.bind_any fun a t => .pure ⟨joint, a.tokens, ?_⟩)
  rw [hrest]
  rfl

theorem ensures_attributes (s : Progress) :
    g.attributes.Ensures s fun found t =>
      Took s (found.flatMap (·.tokens)) t ∧ AttributeRun (found.flatMap (·.tokens)) := by
  have hforms := Ensures.repeatWhile_all (fun s h => ensures_oneAttribute (g := g) h) s
  refine (hg.attributes s).and (hforms.mono fun found _ hfound => ?_)
  induction found with
  | nil => exact .nil
  | cons a found ih =>
    obtain ⟨⟨joint, inside, ha⟩, hfound⟩ := List.forall_mem_cons.1 hfound
    rw [List.flatMap_cons, ha]
    exact .cons (ih hfound)

/-- Attributes are left out of what takes none, if they stand in front of that. -/
theorem ensures_attributeTokens (s : Progress) : g.attributeTokens.Ensures s (TookAttributes s) := by
  have htook : g.attributeTokens.Ensures s fun ts t => Took s ts t ∧ AttributeRun ts :=
    .bind (hg.ensures_attributes s) fun _ _ h => .pure h
  exact (htook.and (g.ensures_attributeTokens s)).mono fun _ _ h => ⟨h.1.1, h.1.2, h.2⟩

theorem innerAttributes : g.innerAttributes.Writes :=
  fun s => .bind (WritesAs.repeatWhile (fun s _ => hg.oneAttribute 2 s) s) fun _ _ h => .pure h

theorem attributedBlock : g.attributedBlock.Writes := by
  unfold Grammar.attributedBlock
  exact .group .brace (.inOrder ⟨hg.innerAttributes, hg.statements⟩)

end Faithful

end Grammar

end ScreenRoutes
