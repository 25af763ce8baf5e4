import ScreenRoutes.Grammar.Expression
import ScreenRoutes.Proofs.Spelling.Operator

/-!
# Expressions

An expression stays but for its indices, and for attributes in front of what takes none.
-/

namespace ScreenRoutes

open Reading Tokens

theorem TookExpr.of_took {s t : Progress} {e : ExprText} (h : Took s e.tokens t)
    (hfixed : e.fixed = false) : TookExpr s e t :=
  ⟨h, fun h' => absurd h' (by rw [hfixed]; exact Bool.false_ne_true)⟩

namespace Reading.Ensures

variable {s : Progress} {p : Reading Tokens}

theorem plain (hp : p.Writes) : Ensures (do return .plain (← p)) s (TookExpr s) :=
  .bind (hp s) fun _ _ h => .pure (.of_took h rfl)

theorem blockLike (hp : p.Writes) : Ensures (do return Grammar.blockLike (← p)) s (TookExpr s) :=
  .bind (hp s) fun _ _ h => .pure (.of_took h rfl)

end Reading.Ensures

namespace Grammar

/-! ## Behind an operand -/

theorem ensures_fractionIndices (parts : List String) (s : Progress) :
    (fractionIndices parts).Ensures s fun ts t => t = s ∧
      ∃ indices, parts.map integerParts? = indices.map (fun n => some (n, [])) ∧
        ts = pointed indices := by
  have hindices (parts : List String) (s : Progress) :
      (parts.mapM indexTokens).Ensures s fun found t => t = s ∧
        ∃ indices : List Nat, parts.map integerParts? = indices.map (fun n => some (n, [])) ∧
          found = indices.map fun n => [.literal (toString n)] := by
    induction parts generalizing s with
    | nil => exact .pure ⟨rfl, [], rfl, rfl⟩
    | cons part parts ih =>
      rw [List.mapM_cons]
      refine .bind (ensures_indexTokens part s) ?_
      rintro _ t ⟨rfl, n, hn, rfl⟩
      refine .bind (ih t) ?_
      rintro _ u ⟨rfl, indices, hindices, rfl⟩
      exact .pure ⟨rfl, n :: indices, by rw [List.map_cons, List.map_cons, hn, hindices], rfl⟩
  refine .bind (hindices parts s) ?_
  rintro _ t ⟨rfl, indices, hparts, rfl⟩
  exact .pure ⟨rfl, indices, hparts, rfl⟩

/-- Behind a point, a fraction is written as the indices that it stands for, with a point behind them
if a member is still to come. -/
theorem ensures_fractionMembers {s t : Progress} {joint : Bool} (h : Took s [.punct '.' joint] t) :
    fractionMembers.Ensures t fun m u => Took s (.punct '.' joint :: m.1) u ∧
      (m.2 → ∃ front last, .punct '.' joint :: m.1 = front ++ [.punct '.' last]) := by
  refine .bind_rest ?_
  split
  · next text more hrest =>
    refine .ite (fun _ => .bind_take ?_) fun _ => .pure ⟨h, fun _ => ⟨[], joint, rfl⟩⟩
    have hliteral : Took t [.literal text] { t with rest := t.rest.drop 1 } :=
      .of_take (by rw [hrest]; rfl)
    have htext := h.append hliteral
    split
    · next parts hparts =>
      refine .bind (ensures_fractionIndices _ _) ?_
      rintro _ u ⟨rfl, indices, hindices, rfl⟩
      refine .pure ⟨?_, fun _ => ⟨.punct '.' joint :: pointed indices, false, rfl⟩⟩
      exact htext.respell (.of (.fraction true (List.reverse_eq_cons_iff.1 hparts) hindices))
    · refine .bind (ensures_fractionIndices _ _) ?_
      rintro _ u ⟨rfl, indices, hindices, rfl⟩
      have hfraction : Respelling (t.rest.drop 1) [.punct '.' joint, .literal text] _ :=
        .fraction false (List.append_nil _).symm hindices
      rw [if_neg Bool.false_ne_true, List.append_nil] at hfraction
      exact .pure ⟨htext.respell (.of hfraction), nofun⟩
  · exact .pure ⟨h, fun _ => ⟨[], joint, rfl⟩⟩

/-- Where a point comes next what is behind it is a member. -/
theorem exists_of_startsPoint {ts : Tokens} (h : startsPoint ts) :
    ∃ joint more, ts = .punct '.' joint :: more :=
  exists_of_startsMark rfl (Bool.and_eq_true_iff.1 h).1

theorem writes_builtIn : builtIn.Writes := by
  refine fun s => .bind (.writes (.inOrder ⟨.word _, .mark _, .nameTokens⟩)) ?_
  intro start t hstart
  refine .bind_rest ?_
  split
  · exact .append hstart (.take 1)
  · exact .expected

namespace Faithful

variable {g : Grammar} (hg : g.Faithful)

include hg

theorem callArguments : g.callArguments.Writes := by
  unfold Grammar.callArguments
  exact .group .paren (.commaList hg.exprTokens)

theorem memberBehind {s t : Progress} {joint : Bool} (h : Took s [.punct '.' joint] t) :
    g.memberBehind.Ensures t fun ts u => Took s (.punct '.' joint :: ts) u := by
  have hturbofish : (do
      let colons ← take 2
      return colons ++ angledTokens (← angledItems g.genericArgument) : Reading Tokens).Writes := by
    refine fun s => .bind (Writes.take 2 s) fun colons t hcolons => ?_
    exact .bind_took hcolons (.angledItems hg.genericArgument) fun _ _ h => .pure h
  unfold Grammar.memberBehind
  refine .bind (ensures_fractionMembers h) fun (start, isOpen) u ⟨hstart, hpoint⟩ => ?_
  refine .ite (fun _ => .pure hstart) fun hopen => .bind_ahead (.ite (fun _ => ?_) fun _ => ?_)
  · exact .bind_writes hstart (.take 1) fun _ _ h => .pure h
  obtain ⟨front, last, hfront⟩ := hpoint (by simpa using hopen)
  refine .bind_ahead (.bind (ensures_member u) fun this v hmember => ?_)
  have hthis : Took s (.punct '.' joint :: start ++ this) v := by
    rw [hfront] at hstart ⊢
    exact hmember.index hstart
  refine .ite (fun _ => ?_) fun _ => .pure hthis
  · refine .bind_writes hthis (.optionally hturbofish) fun turbofish w hcolons => .bind_ahead ?_
    refine .ite (fun _ => ?_) fun hnone => .pure ?_
    · exact .bind_writes hcolons hg.callArguments fun _ _ h => .pure h
    · have hnone' : turbofish = [] := by
        simp only [Bool.or_eq_true, not_or, Bool.not_eq_true', Bool.not_eq_false,
          List.isEmpty_iff] at hnone
        exact hnone.1
      rw [hnone', List.append_nil] at hcolons
      exact hcolons

/-- What comes behind an operand goes on from it. -/
theorem trailersFor (fuel : Nat) (e : ExprText) (s : Progress) :
    (g.trailersFor fuel e).Ensures s (TookBehind e s) := by
  induction fuel generalizing e s with
  | zero => exact .pure (.refl e s)
  | succ fuel ih =>
    have hgoOn {p : Reading Tokens} (hp : p.Ensures s (Took s)) : Ensures
        (do g.trailersFor fuel (.plain (e.tokens ++ (← p)))) s (TookBehind e s) := by
      refine .bind hp fun more t hmore => (ih _ t).mono fun _ _ => ?_
      have hstep : TookBehind e s (.plain (e.tokens ++ more)) t := .of_took hmore nofun
      exact hstep.trans
    unfold Grammar.trailersFor
    refine .bind_rest (.ite (fun _ => hgoOn (hg.callArguments s)) fun _ =>
      .ite (fun hpoint => ?_) fun _ =>
      .ite (fun _ => hgoOn (Writes.group .bracket hg.exprTokens s)) fun _ =>
      .ite (fun _ => hgoOn (Writes.take 1 s)) fun _ => .pure (.refl e s))
    refine hgoOn ?_
    obtain ⟨joint, more, hrest⟩ := exists_of_startsPoint (Bool.and_eq_true_iff.1 hpoint).1
    rw [inOrder_cons, inOrder_cons, inOrder_nil]
    simp only [bind_assoc, pure_bind, List.append_nil]
    refine .bind (ensures_take 1 s) ?_
    rintro _ t ⟨rfl, hpoint⟩
    rw [hrest] at hpoint ⊢
    exact .bind (hg.memberBehind hpoint) fun _ _ h => .pure h

theorem trailers (e : ExprText) (s : Progress) : (g.trailers e).Ensures s (TookBehind e s) :=
  .bind_rest (.ite (fun _ => hg.trailersFor _ e s) fun _ => .pure (.refl e s))

/-! ## Blocks and what leads into them -/

theorem subject : g.subject.Writes :=
  fun s => .bind (hg.expr false s) fun _ _ h => .pure h

theorem branchesFor (fuel : Nat) : (g.branchesFor fuel).Writes := by
  induction fuel with
  | zero => exact .nothing
  | succ fuel ih =>
    intro s
    unfold Grammar.branchesFor
    refine .bind (.writes (.inOrder ⟨.word _, hg.subject, hg.block⟩)) fun start t hstart => ?_
    refine .bind_ahead (.ite (fun _ => ?_) fun _ => .pure hstart)
    refine .bind_writes hstart (.take 1) fun other u hother => .bind_ahead ?_
    refine .ite (fun _ => ?_) fun _ => .bind_ahead (.ite (fun _ => ?_) fun _ => .expectedOneOf)
    · exact .append hother ih
    · exact .append hother hg.block

theorem branches : g.branches.Writes :=
  fun s => .bind_rest (hg.branchesFor _ s)

theorem matchArm : g.matchArm.Writes := by
  intro s
  unfold Grammar.matchArm
  refine .bind (.writes (.inOrder ⟨hg.attributeTokens, hg.alternativesTokens,
    .optionally (.inOrder ⟨.take 1, hg.exprTokens⟩), .mark _⟩)) fun start t hstart => ?_
  refine .bind (hg.statement t) fun body u hbody => .bind_ahead ?_
  refine .bind_branch (fun _ => Writes.mark _ u) (fun _ => Writes.markIf _ u) fun comma v hcomma => ?_
  exact .pure ((hstart.append hbody.1).append hcomma)

theorem matchArms : g.matchArms.Writes := by
  unfold Grammar.matchArms
  refine .group .brace fun s => .bind (hg.innerAttributes s) fun attributes t hattributes => ?_
  exact .bind_took hattributes (.flatten hg.matchArm) fun _ _ h => .pure h

theorem matching : g.matching.Writes := by
  unfold Grammar.matching
  exact .inOrder ⟨.word _, hg.subject, hg.matchArms⟩

theorem looping : g.looping.Writes := by
  refine fun s => .bind_rest (.ite (fun _ => .writes ?_) fun _ => .ite (fun _ => .writes ?_) fun _ =>
    .writes ?_)
  · exact .inOrder ⟨.take 1, hg.subject, hg.attributedBlock⟩
  · exact .inOrder ⟨.take 1, hg.alternativesTokens, .word _, hg.subject, hg.attributedBlock⟩
  · exact .inOrder ⟨.word _, hg.attributedBlock⟩

theorem labelled : g.labelled.Writes := by
  refine fun s => .bind (.writes (.inOrder ⟨.lifetime, .mark _⟩)) fun label t hlabel => .bind_rest ?_
  refine .ite (fun _ => ?_) fun _ => .ite (fun _ => ?_) fun _ => .expected
  · exact .append hlabel hg.looping
  · exact .append hlabel hg.attributedBlock

/-! ## Closures -/

/-- Attributes are left out in front of a pattern that stays as it stands and has no type. -/
theorem closureParam : g.closureParam.Writes := by
  intro s
  refine .bind (hg.ensures_attributeTokens s) fun attributes t ⟨hattributes, hrun, _⟩ => ?_
  refine .bind (hg.pattern t) fun pattern u hpattern => .bind_ahead ?_
  have htook := hattributes.append hpattern.1
  refine .ite (fun _ => ?_) fun _ => .ite (fun hfixed => .pure ?_) fun _ => .pure htook
  · exact .append htook (.inOrder ⟨.take 1, hg.typeTokens⟩)
  · exact (hattributes.leftOut (.of (.attributes hrun (hpattern.2 hfixed)))).append hpattern.1

theorem closure (fields : Bool) : (g.closure fields).Writes := by
  intro s
  unfold Grammar.closure
  refine .bind (.writes (.inOrder ⟨.optionally hg.binder, .wordIf _, .wordIf _, .wordIf _, .wordIf _,
    .mark _⟩)) fun marks t hmarks => ?_
  refine .bind_took hmarks (.listTokens hg.closureParam) fun params u hparams => ?_
  refine .bind_writes hparams (.mark _) fun stop v hstop => .bind_ahead ?_
  refine .ite (fun _ => ?_) fun _ => ?_
  · exact .append hstop (.inOrder ⟨.take 2, hg.typeTokens, hg.block⟩)
  · exact .bind_took hstop (hg.expr fields) fun _ _ h => .pure h

/-! ## Jumps -/

theorem breaking (fields : Bool) : (g.breaking fields).Writes := by
  refine fun s => .bind (Writes.word _ s) fun start t hstart => .bind_rest ?_
  refine .ite (fun _ => .bind_any fun _ _ => .throw) fun _ => ?_
  refine .bind_writes hstart .lifetimeIf fun label u hlabel => ?_
  exact .append hlabel (.optionally hg.exprTokens)

theorem returning : g.returning.Writes := by
  unfold Grammar.returning
  exact .inOrder ⟨.take 1, .optionally hg.exprTokens⟩

/-! ## Parentheses, brackets, and structures -/

theorem parenExpr : g.parenExpr.Writes := by
  unfold Grammar.parenExpr
  exact .group .paren (.commaList hg.exprTokens)

theorem arrayInside : g.arrayInside.Writes := by
  refine fun s => .bind_ahead (.ite (fun _ => .pure (.refl s)) fun _ => ?_)
  refine .bind (hg.exprTokens s) fun first t hfirst => .bind_rest ?_
  refine .ite (fun _ => .pure hfirst) fun _ => .ite (fun _ => ?_) fun _ => .ite (fun _ => ?_) fun _ =>
    .expected
  · refine .bind_writes hfirst (.take 1) fun comma u hcomma => ?_
    exact .append hcomma (.commaList hg.exprTokens)
  · refine .bind_writes hfirst (.take 1) fun semicolon u hsemicolon => ?_
    exact .append hsemicolon hg.exprTokens

theorem fieldValue : g.fieldValue.Writes := by
  refine fun s => .bind (hg.attributeTokens s) fun attributes t hattributes => .bind_ahead ?_
  refine .bind (ensures_member t) fun this u hthis => .bind_ahead (.ite (fun _ => ?_) fun hnone => ?_)
  · have hvalue : (inOrder [mark ":", g.exprTokens]).Writes := .inOrder ⟨.mark _, hg.exprTokens⟩
    refine .bind ((hvalue u).and (ensures_startsMark_inOrder _ _ u)) fun _ _ ⟨h, hmark⟩ => .pure ?_
    exact (hattributes.append (hthis.field (.inr hmark))).append h
  · have hname : startsName t.rest := by
      simp only [Bool.or_eq_true, not_or, Bool.not_eq_true', Bool.not_eq_false] at hnone
      exact hnone.1
    exact .pure (hattributes.append (hthis.field (.inl hname)))

theorem fieldValuesFor (fuel : Nat) : (g.fieldValuesFor fuel).Writes := by
  induction fuel with
  | zero => exact .nothing
  | succ fuel ih =>
    intro s
    unfold Grammar.fieldValuesFor
    refine .bind_rest (.ite (fun _ => .pure (.refl s)) fun _ => .ite (fun _ => .writes ?_) fun _ => ?_)
    · exact .inOrder ⟨.take 2, .optionally hg.exprTokens⟩
    · refine .bind (hg.fieldValue s) fun this t hthis => .bind_ahead ?_
      refine .ite (fun _ => .pure hthis) fun _ => ?_
      refine .bind_writes hthis (.mark _) fun comma u hcomma => ?_
      exact .append hcomma ih

theorem fieldValues : g.fieldValues.Writes := by
  unfold Grammar.fieldValues
  exact .group .brace fun s => .bind_rest (hg.fieldValuesFor _ s)

theorem pathExpr (fields : Bool) (s : Progress) : (g.pathExpr fields).Ensures s (TookExpr s) := by
  refine .bind (hg.qualifiedPath true s) fun p t hp => .bind_rest ?_
  refine .ite (fun _ => ?_) fun _ => .ite (fun _ => ?_) fun _ => .pure (.of_took hp rfl)
  · exact .bind (ensures_invocation t) fun _ _ h => .pure (.of_took (hp.append h.1) rfl)
  · exact .bind_writes hp hg.fieldValues fun _ _ h => .pure (.of_took h rfl)

/-! ## All operands -/

theorem letting (fields : Bool) : (g.letting fields).Writes := by
  unfold Grammar.letting
  refine fun s => .bind (.writes (.inOrder ⟨.word _, hg.alternativesTokens, .mark _⟩)) ?_
  intro start t hstart
  refine .bind (hg.operand fields t) fun left u hleft => ?_
  refine .bind (hg.operators fields .compare left u) fun value v hvalue => .pure ?_
  exact hstart.append (hleft.behind hvalue).1

theorem atom (fields : Bool) (s : Progress) : (g.atom fields).Ensures s (TookExpr s) := by
  unfold Grammar.atom
  refine .bind_rest ?_
  dsimp only
  split
  · next text more hrest =>
    exact .bind_take (.pure (.of_took (.of_take (by rw [hrest]; rfl)) rfl))
  refine .ite (fun _ => .plain .literal) fun _ => .ite (fun _ => .plain ?_) fun _ =>
    .ite (fun _ => .blockLike ?_) fun _ => .ite (fun _ => .plain (hg.closure fields)) fun _ =>
    .ite (fun hbuiltin => ?_) fun _ => .ite (fun _ => hg.pathExpr fields s) fun _ =>
    .ite (fun _ => .plain hg.parenExpr) fun _ => .ite (fun _ => .plain (hg.breaking fields)) fun _ =>
    .ite (fun _ => .plain ?_) fun _ => .ite (fun _ => .plain hg.returning) fun _ =>
    .ite (fun hbecome => ?_) fun _ => .ite (fun _ => .plain (.group .bracket hg.arrayInside)) fun _ =>
    .ite (fun _ => .plain (hg.letting fields)) fun _ => .ite (fun _ => .blockLike hg.branches) fun _ =>
    .ite (fun _ => .blockLike hg.looping) fun _ => .ite (fun _ => .blockLike hg.matching) fun _ =>
    .ite (fun _ => .blockLike ?_) fun _ => .ite (fun _ => .blockLike hg.attributedBlock) fun _ =>
    .ite (fun _ => ?_) fun _ => .ite (fun _ => .plain (.take 1)) fun _ =>
    .ite (fun _ => .blockLike hg.labelled) fun _ => .expected
  · exact .inOrder ⟨.take 1, .wordIf _, hg.block⟩
  · exact .inOrder ⟨.take 1, hg.block⟩
  · refine .bind (writes_builtIn s) fun _ _ h => .pure ⟨h, fun _ => ?_⟩
    exact ⟨[], s.rest, .nil, rfl, .inr (Bool.and_eq_true_iff.1 hbuiltin)⟩
  · exact .inOrder ⟨.take 1, .lifetimeIf⟩
  · have hwritten : (asWritten (inOrder [take 1, g.exprTokens])).Writes :=
      .asWritten (Writes.moves (.inOrder ⟨.take 1, hg.exprTokens⟩))
    exact .bind (hwritten s) fun _ _ h => .pure ⟨h, fun _ => .of_word rfl hbecome⟩
  · exact .inOrder ⟨.take 1, hg.attributedBlock⟩
  · exact .bind (hg.rangeFrom fields s) fun _ _ h => .pure (.of_took h rfl)

/-- Attributes in front of an operand are written in front of it, or stay as they stand. -/
theorem trailing (fields : Bool) {attributes written : Tokens} {s t : Progress}
    (h : TookAttributes s attributes t) (hwritten : Took s written t) :
    (g.trailing fields attributes written).Ensures t (TookExpr s) := by
  refine .bind (hg.atom fields t) fun left u hleft => ?_
  refine .bind (hg.trailers left u) fun e v htrailers => ?_
  have he : TookExpr t e v := hleft.behind htrailers
  refine .ite (fun hfixed => .pure ?_) fun _ => .ite (fun _ => .throw) fun _ =>
      .pure (he.withAttributes h)
  exact ⟨hwritten.append he.1, fun _ => h.startsFixed (he.2 hfixed)⟩

theorem reference (fields : Bool) : (g.reference fields).Writes := by
  refine fun s => .bind (Writes.mark _ s) fun start t hstart => .bind_ahead ?_
  refine .bind_branch (fun _ => Writes.take 2 t) (fun _ => Writes.wordIf _ t) fun marks u hmarks => ?_
  refine .bind (hg.operand fields u) fun e v he => .pure ?_
  exact (hstart.append hmarks).append he.1

theorem readOperand (fields : Bool) (s : Progress) :
    (g.readOperand fields).Ensures s (TookExpr s) := by
  unfold Grammar.readOperand
  refine .bind_ahead (.bind_branch
    (fun _ => ensures_withWritten hg.attributeTokens.moves (hg.ensures_attributeTokens s))
    (fun _ => .pure ⟨.refl s, .refl s⟩) ?_)
  rintro ⟨attributes, written⟩ t ⟨hattributes, hwritten⟩
  refine .bind_rest (.ite (fun _ => ?_) fun _ => .ite (fun _ => ?_) fun _ => ?_)
  · refine .bind_writes hattributes.1 (hg.reference fields) fun _ _ h => .pure (.of_took h rfl)
  · refine .bind_writes hattributes.1 (.take 1) fun operator u hoperator => ?_
    refine .bind (hg.operand fields u) fun e v he => .pure (.of_took ?_ rfl)
    exact hoperator.append he.1
  · exact hg.trailing fields hattributes hwritten

/-! ## Expressions as statements -/

theorem leading (s : Progress) : g.leading.Ensures s (TookExpr s) := by
  unfold Grammar.leading
  refine .bind_rest ?_
  dsimp only
  refine .ite (fun _ => .blockLike hg.branches) fun _ => .ite (fun _ => .blockLike hg.looping) fun _ =>
    .ite (fun _ => .blockLike hg.matching) fun _ => .ite (fun _ => .blockLike ?_) fun _ =>
    .ite (fun _ => .blockLike ?_) fun _ => .ite (fun _ => .blockLike hg.attributedBlock) fun _ =>
    .ite (fun _ => .blockLike hg.labelled) fun _ => hg.operand true s
  · exact .inOrder ⟨.take 1, hg.block⟩
  · exact .inOrder ⟨.take 1, hg.attributedBlock⟩

theorem readStatement (s : Progress) : g.readStatement.Ensures s (TookExpr s) := by
  refine .bind (hg.ensures_attributeTokens s) fun attributes t hattributes => ?_
  refine .bind (hg.leading t) fun e u he => .ite (fun _ => ?_) fun _ => .bind_ahead ?_
  · refine (hg.operators true .jump _ u).mono fun _ _ => ?_
    exact (he.withAttributes hattributes).behind
  · refine .ite (fun _ => ?_) fun _ => .pure (he.withAttributes hattributes)
    refine .bind (hg.trailers e u) fun e' v he' => (hg.operators true .jump _ v).mono fun _ _ => ?_
    exact ((he.behind he').withAttributes hattributes).behind

end Faithful

end Grammar

end ScreenRoutes
