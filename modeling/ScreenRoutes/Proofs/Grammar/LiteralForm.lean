import ScreenRoutes.Grammar.Depth
import ScreenRoutes.Proofs.Token.Reading

/-!
# Literals among expressions

An expression has the form of a literal only where it is written as one, behind nothing but
attributes and, where it is negated, a single minus sign (`ensures_expr`). Whatever follows a literal, or
stands around it, gives the expression a form of its own (`KeepsLiteral`).
-/

namespace ScreenRoutes

open Reading Tokens

/-! ## Forms of literals -/

/-- Whether the form is that of a literal, with a minus sign in front or without. -/
def ExprForm.isLiteral : ExprForm → Bool
  | .literal _ | .negated _ => true
  | _ => false

inductive AttributeRun : Tokens → Prop
  | nil : AttributeRun []
  | cons {joint : Bool} {content ts : Tokens} :
    AttributeRun ts → AttributeRun (.punct '#' joint :: .group .bracket content :: ts)

/-- The trees that an expression of the form of a literal is written with. -/
inductive ExprForm.Spells : ExprForm → Tokens → Prop
  | literal {attributes : Tokens} {text : String} :
    AttributeRun attributes → Spells (.literal text) (attributes ++ [.literal text])
  | negated {attributes ts : Tokens} {joint : Bool} {text : String} :
    AttributeRun attributes → Spells (.literal text) ts →
      Spells (.negated text) (attributes ++ .punct '-' joint :: ts)

theorem AttributeRun.append {ts us : Tokens} (hts : AttributeRun ts) (hus : AttributeRun us) :
    AttributeRun (ts ++ us) := by
  induction hts with
  | nil => exact hus
  | cons _ ih => exact .cons ih

theorem ExprForm.Spells.behind_attributes {form : ExprForm} {attributes ts : Tokens}
    (h : form.Spells ts) (hattributes : AttributeRun attributes) :
    form.Spells (attributes ++ ts) := by
  cases h with
  | literal hrun =>
    rw [← List.append_assoc]
    exact .literal (hattributes.append hrun)
  | negated hrun hliteral =>
    rw [← List.append_assoc]
    exact .negated (hattributes.append hrun) hliteral

theorem ExprForm.isLiteral_of_negation {form : ExprForm} (h : form.negation.isLiteral) :
    form.isLiteral := by
  cases form with
  | literal => rfl
  | _ => cases h

theorem ExprForm.Spells.negation {form : ExprForm} {ts : Tokens} (h : form.Spells ts)
    (hliteral : form.negation.isLiteral) (joint : Bool) :
    form.negation.Spells (.punct '-' joint :: ts) := by
  cases h with
  | literal hrun => exact .negated .nil (.literal hrun)
  | negated => cases hliteral

/-- Whether an expression that was read from `s` on up to `t` is written as a literal, if it has the
form of one. -/
def ReadsLiteral (s : Progress) (e : ExprText) (t : Progress) : Prop :=
  e.form.isLiteral → ∃ written, e.form.Spells written ∧ s.rest = written ++ t.rest

/-- Whether an expression is the one that was there at `s`, or has a form other than a literal's. -/
def KeepsLiteral (left : ExprText) (s : Progress) (e : ExprText) (t : Progress) : Prop :=
  e = left ∧ t = s ∨ ¬ e.form.isLiteral

theorem KeepsLiteral.of_other {left e : ExprText} {u t : Progress} (hkeeps : KeepsLiteral left u e t)
    (h : ¬ left.form.isLiteral) (first : ExprText) (s : Progress) : KeepsLiteral first s e t := by
  rcases hkeeps with ⟨rfl, rfl⟩ | hother
  · exact .inr h
  · exact .inr hother

theorem ReadsLiteral.keeps {s u t : Progress} {left e : ExprText} (h : ReadsLiteral s left u)
    (hkeeps : KeepsLiteral left u e t) : ReadsLiteral s e t := by
  rcases hkeeps with ⟨rfl, rfl⟩ | hother
  · exact h
  · exact fun hliteral => absurd hliteral hother

theorem ReadsLiteral.withAttributes {s t : Progress} {e : ExprText} (h : ReadsLiteral s e t)
    (attributes : Tokens) : ReadsLiteral s (e.withAttributes attributes) t := by
  rw [ExprText.withAttributes]
  split
  · exact h
  · exact h

/-- Whether all that was taken between two places are attributes. -/
def TakesAttributes (s t : Progress) : Prop :=
  ∃ attributes, AttributeRun attributes ∧ s.rest = attributes ++ t.rest

theorem TakesAttributes.refl (s : Progress) : TakesAttributes s s :=
  ⟨[], .nil, rfl⟩

theorem TakesAttributes.trans {s t u : Progress} (h : TakesAttributes s t)
    (hmore : TakesAttributes t u) : TakesAttributes s u := by
  obtain ⟨ts, hts, hs⟩ := h
  obtain ⟨us, hus, ht⟩ := hmore
  exact ⟨ts ++ us, hts.append hus, by rw [hs, ht, List.append_assoc]⟩

theorem TakesAttributes.reads {s t u : Progress} {e : ExprText} (h : TakesAttributes s t)
    (hreads : ReadsLiteral t e u) : ReadsLiteral s e u := by
  intro hliteral
  obtain ⟨attributes, hattributes, hs⟩ := h
  obtain ⟨written, hspells, ht⟩ := hreads hliteral
  exact ⟨attributes ++ written, hspells.behind_attributes hattributes,
    by rw [hs, ht, List.append_assoc]⟩

namespace Grammar

variable (g : Grammar) (fields : Bool) (s : Progress)

/-! ## Behind an operand -/

theorem ensures_trailersFor (fuel : Nat) (e : ExprText) :
    (g.trailersFor fuel e).Ensures s (KeepsLiteral e s) := by
  induction fuel generalizing e s with
  | zero => exact .pure (.inl ⟨rfl, rfl⟩)
  | succ fuel ih =>
    have hgoOn (p : Reading Tokens) : Ensures
        (do g.trailersFor fuel (.plain (e.tokens ++ (← p)))) s (KeepsLiteral e s) := by
      refine .bind_any fun ts t => (ih t _).mono fun e' t' hkeeps => ?_
      exact hkeeps.of_other Bool.false_ne_true e s
    rw [trailersFor]
    refine .bind_rest ?_
    refine .ite (fun _ => hgoOn _) fun _ => .ite (fun _ => hgoOn _) fun _ =>
      .ite (fun _ => hgoOn _) fun _ => .ite (fun _ => hgoOn _) fun _ => ?_
    exact .pure (.inl ⟨rfl, rfl⟩)

theorem ensures_trailers (e : ExprText) : (g.trailers e).Ensures s (KeepsLiteral e s) := by
  rw [trailers]
  refine .bind_rest (.ite (fun _ => g.ensures_trailersFor s _ e) fun _ => ?_)
  exact .pure (.inl ⟨rfl, rfl⟩)

/-! ## Operands -/

theorem ensures_pathExpr : (g.pathExpr fields).Ensures s fun e _ => ¬ e.form.isLiteral := by
  rw [pathExpr]
  refine .bind_any fun path t => .bind_rest ?_
  refine .ite (fun _ => .bind_any fun _ _ => .pure Bool.false_ne_true) fun _ => ?_
  refine .ite (fun _ => .bind_any fun _ _ => .pure Bool.false_ne_true) fun _ => ?_
  exact .pure Bool.false_ne_true

/-- An operand without anything around it is a literal only where a literal stands. -/
theorem ensures_atom : (g.atom fields).Ensures s (ReadsLiteral s) := by
  rw [atom]
  refine .bind_rest ?_
  split
  · next l ts hrest =>
    refine .bind_take (.pure fun _ => ⟨[.literal l], .literal .nil, ?_⟩)
    rw [hrest]
    rfl
  · -- whatever else stands there, the form is fixed by what it starts with
    refine Ensures.mono (r := fun e _ => ¬ e.form.isLiteral) ?_ fun e t hother hliteral =>
      absurd hliteral hother
    repeat' refine .ite (fun _ => ?_) fun _ => ?_
    all_goals first
      | exact .expected
      | exact g.ensures_pathExpr fields s
      | exact .bind_any fun _ _ => .pure Bool.false_ne_true

/-- Attributes in front of an operand are no part of its form. -/
theorem ensures_trailing (attributes written : Tokens) :
    (g.trailing fields attributes written).Ensures s (ReadsLiteral s) := by
  rw [trailing]
  refine .bind (g.ensures_atom fields s) fun left u hreads => ?_
  refine .bind (g.ensures_trailers u left) fun e t hkeeps => ?_
  have hliteral : ReadsLiteral s e t := hreads.keeps hkeeps
  refine .ite (fun _ => .pure hliteral) fun _ => .ite (fun _ => .throw) fun _ => .pure ?_
  exact hliteral.withAttributes attributes

/-! ## Attributes and signs -/

/-- Reading attributes takes a run of them. -/
theorem ensures_attributeTokens : g.attributeTokens.Ensures s fun _ t => TakesAttributes s t := by
  have hitem (s : Progress) (h : startsMark "#" s.rest) :
      (do g.attributeBehind (← take 1)).Ensures s fun _ t => TakesAttributes s t := by
    obtain ⟨joint, more, hrest⟩ := exists_of_startsMark rfl h
    refine .bind_take (.bind (ensures_inside .bracket _ _) fun a t hinside => .pure ?_)
    obtain ⟨content, -, hcontent, -⟩ := hinside
    rw [hrest] at hcontent
    refine ⟨[.punct '#' joint, .group .bracket content], .cons .nil, ?_⟩
    rw [hrest]
    exact congrArg _ hcontent
  refine .bind (.repeatWhile TakesAttributes.refl TakesAttributes.trans hitem s) ?_
  exact fun _ _ htakes => .pure htakes

/-- Operators in front of an operand, the attributes once read: of all these only a minus sign in front
of a literal gives a literal. -/
theorem ensures_prefixed (h : ∀ s, (g.operand fields).Ensures s (ReadsLiteral s))
    (attributes written : Tokens) : Ensures (do
      let ts ← rest
      if startsMark "&" ts then
        return .plain (attributes ++ (← g.reference fields))
      else if startsAnyMark ["*", "!", "-"] ts then
        let operator ← take 1
        let e ← g.operand fields
        let form := if startsMark "-" ts then e.form.negation else .other
        return ⟨attributes ++ operator ++ e.tokens, form, false⟩
      else g.trailing fields attributes written) s (ReadsLiteral s) := by
  refine .bind_rest (.ite (fun _ => ?_) fun _ => .ite (fun _ => ?_) fun _ => ?_)
  · exact .bind_any fun _ _ => .pure (absurd · Bool.false_ne_true)
  · refine .bind_take (.bind (h _) fun e t hreads => .pure ?_)
    by_cases hminus : startsMark "-" s.rest
    · obtain ⟨joint, more, hrest⟩ := exists_of_startsMark rfl hminus
      rw [if_pos hminus]
      intro hliteral
      obtain ⟨ts, hspells, hbehind⟩ := hreads (ExprForm.isLiteral_of_negation hliteral)
      refine ⟨.punct '-' joint :: ts, hspells.negation hliteral joint, ?_⟩
      rw [hrest] at hbehind ⊢
      exact congrArg _ hbehind
    · rw [if_neg hminus]
      exact (absurd · Bool.false_ne_true)
  · exact g.ensures_trailing fields s attributes written

theorem ensures_readOperand (h : ∀ s, (g.operand fields).Ensures s (ReadsLiteral s)) :
    (g.readOperand fields).Ensures s (ReadsLiteral s) := by
  rw [readOperand]
  refine .bind_ahead ?_
  -- what follows the attributes stands in both branches
  dsimp only
  refine .ite (fun _ => ?_) fun _ => g.ensures_prefixed fields s h [] []
  have htaken : (withWritten g.attributeTokens).Ensures s fun _ t => TakesAttributes s t := by
    refine .bind_rest (.bind (g.ensures_attributeTokens s) fun _ _ htakes => ?_)
    exact .bind_rest (.pure htakes)
  refine .bind htaken fun (attributes, written) t htakes => ?_
  exact (g.ensures_prefixed fields t h attributes written).mono fun _ _ => htakes.reads

/-! ## Operators -/

theorem ensures_readOperatorsFor (fuel : Nat) (base : Precedence) (left : ExprText) :
    (g.readOperatorsFor fuel fields base left).Ensures s (KeepsLiteral left s) := by
  induction fuel generalizing left s with
  | zero => exact .pure (.inl ⟨rfl, rfl⟩)
  | succ fuel ih =>
    have hgoOn (more : Tokens) (form : ExprForm) (hform : ¬ form.isLiteral) (t : Progress) :
        (g.readOperatorsFor fuel fields base ⟨left.tokens ++ more, form, left.fixed⟩).Ensures t
          (KeepsLiteral left s) :=
      (ih t _).mono fun _ _ hkeeps => hkeeps.of_other hform left s
    rw [readOperatorsFor]
    refine .bind_rest (.ite (fun _ => .pure (.inl ⟨rfl, rfl⟩)) fun _ => ?_)
    split
    · refine .ite (fun _ => .throw) fun _ => .bind_any fun _ _ => .bind_any fun _ t => hgoOn _ _ ?_ t
      split <;> exact Bool.false_ne_true
    · split
      · exact .bind_any fun _ _ => .bind_any fun _ t => hgoOn _ .other Bool.false_ne_true t
      · exact .bind_any fun _ _ => .pure (.inr Bool.false_ne_true)
      · exact .bind_any fun _ t => hgoOn _ .other Bool.false_ne_true t
      · exact .pure (.inl ⟨rfl, rfl⟩)

theorem ensures_readOperators (base : Precedence) (left : ExprText) :
    (g.readOperators fields base left).Ensures s (KeepsLiteral left s) := by
  rw [readOperators]
  refine .bind_rest (.ite (fun _ => ?_) fun _ => g.ensures_readOperatorsFor fields s _ base left)
  exact .pure (.inl ⟨rfl, rfl⟩)

/-! ## Nested code -/

/-- At any depth an operand is a literal only where one is written. -/
theorem ensures_operand (depth : Nat) :
    ((ofDepth depth).operand fields).Ensures s (ReadsLiteral s) := by
  induction depth generalizing s with
  | zero => exact .throw
  | succ depth ih => exact (ofDepth depth).ensures_readOperand fields s ih

theorem ensures_operators (depth : Nat) (base : Precedence) (left : ExprText) :
    ((ofDepth depth).operators fields base left).Ensures s (KeepsLiteral left s) := by
  cases depth with
  | zero => exact .throw
  | succ depth => exact (ofDepth depth).ensures_readOperators fields s base left

/-- **An expression of the form of a literal is written as one**: attributes, and behind them the
literal, or a minus sign in front of such an expression without one. -/
theorem ensures_expr (depth : Nat) : ((ofDepth depth).expr fields).Ensures s (ReadsLiteral s) := by
  cases depth with
  | zero => exact .throw
  | succ depth =>
    refine .bind (ensures_operand fields s depth) fun left t hreads => ?_
    exact (ensures_operators fields t depth .jump left).mono fun _ _ hkeeps => hreads.keeps hkeeps

end Grammar

/-- What is read as the whole of an expression of the form of a literal is written as one. -/
theorem spells_of_whole_expr {ts : Tokens} {e : ExprText} (fields : Bool)
    (h : whole ((Grammar.ofTokens ts).expr fields) ts = .ok e) (hliteral : e.form.isLiteral) :
    e.form.Spells ts := by
  obtain ⟨s, hs, hend, -⟩ := exists_of_whole_eq_ok h
  obtain ⟨written, hspells, hrest⟩ := Grammar.ensures_expr fields _ _ e s hs hliteral
  rw [hend, List.append_nil] at hrest
  have hwritten : ts = written := hrest
  rw [hwritten]
  exact hspells

theorem whole_expr_literal (text : String) (fields : Bool) :
    whole ((Grammar.ofTokens [.literal text]).expr fields) [.literal text] =
      .ok ⟨[.literal text], .literal text, false⟩ :=
  rfl

theorem whole_expr_negated (joint : Bool) (text : String) (fields : Bool) :
    whole ((Grammar.ofTokens [.punct '-' joint, .literal text]).expr fields)
      [.punct '-' joint, .literal text] =
      .ok ⟨[.punct '-' joint, .literal text], .negated text, false⟩ :=
  rfl

end ScreenRoutes
