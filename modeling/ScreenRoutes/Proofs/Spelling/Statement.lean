import ScreenRoutes.Grammar.Signature
import ScreenRoutes.Proofs.Spelling.Expression
import ScreenRoutes.Proofs.Spelling.Inside

/-!
# Statements and signatures

Statements stay. A signature stays but for a parameter that is only a type, which gets a name.
-/

namespace ScreenRoutes

open Reading Tokens

namespace Grammar

/-- The trees of a parameter, or of what stands in front of variadic ones. -/
def paramTokens : Except Tokens ParamForm → Tokens
  | .ok form => form.tokens
  | .error start => start

/-- The trees of parameters, and of the variadic ones behind them. -/
def paramsTokens (params : List FunctionParam × Tokens) : Tokens :=
  params.1.flatMap (·.tokens) ++ params.2

theorem ensures_variadicBehind (start : Tokens) (s : Progress) :
    (variadicBehind start).Ensures s fun ts t => ∃ more, ts = start ++ more ∧ Took s more t := by
  refine .bind (Writes.mark _ s) fun dots t hdots => ?_
  refine .bind_writes hdots (.optionally (.mark _)) fun comma u hcomma => .pure ?_
  exact ⟨dots ++ comma, List.append_assoc .., hcomma⟩

/-- Whether trees were taken between the parentheses of a function's parameters. -/
abbrev TookParams : Progress → Tokens → Progress → Prop :=
  TookInside LeadsParams .paren

/-- A parameter that is only a type gets the name `_`. -/
theorem TookParams.anonymous {s t : Progress} {items attributes : Tokens} (hitems : ReachesItem items)
    (hattributes : AttributeRun attributes) (h : TookParams s (items ++ attributes) t)
    (hname : startsName t.rest) (hless : startsMark "<" (second t.rest)) :
    TookParams s (items ++ attributes ++ [.ident "_", .punct ':' false]) t :=
  h.respell fun _ hlead _ => .of (.anonymous hlead hitems hattributes hname hless)

namespace Faithful

variable {g : Grammar} (hg : g.Faithful)

include hg

/-! ## Statements -/

theorem binds : g.binds.Writes := by
  intro s
  unfold Grammar.binds
  refine .bind (.writes (.inOrder ⟨.word _, hg.patternTokens,
    .optionally (.inOrder ⟨.take 1, hg.typeTokens⟩)⟩)) fun start t hstart => ?_
  refine .bind_writes hstart (.markIf _) fun mark u hmark => ?_
  extract_lets behind
  have hbehind (value : Tokens) (v : Progress) (h : Took s (start ++ mark ++ value) v) :
      (behind value).Ensures v (Took s) :=
    .append h (.mark _)
  refine .ite (fun _ => .bind (.pure ?_) hbehind) fun _ => ?_
  · rw [List.append_nil]
    exact hmark
  · refine .bind_took hmark (hg.expr true) fun e v he => ?_
    refine .bind_branch (fun _ => Writes.nothing v) (fun _ => ?_) fun otherwise w h => ?_
    · exact .writes (.optionally (.inOrder ⟨.take 1, hg.block⟩))
    · refine .bind (.pure ?_) hbehind
      rw [← List.append_assoc]
      exact he.append h

/-- A statement that turns out to be an item is read from its attributes on. -/
theorem oneStatement : g.oneStatement.WritesAs (·.1) := by
  intro s
  unfold Grammar.oneStatement
  refine .bind_get (.bind (hg.ensures_attributeTokens s) fun attributes t hattributes => ?_)
  refine .bind_foresee fun found => ?_
  extract_lets behind
  have hbehind (invoked : Invoked) (t : Progress) (h : TookAttributes s attributes t) :
      (behind invoked).Ensures t fun a u => Took s a.1 u := by
    refine .bind_rest (.ite (fun _ => ?_) fun _ => .ite (fun _ => ?_) fun _ =>
      .ite (fun _ => ?_) fun _ => ?_)
    · refine .bind_writes h.1 (.inOrder ⟨writes_plainPath, writes_invocation, .markIf _⟩) ?_
      exact fun _ _ h => .pure h
    · exact .bind_writes h.1 hg.binds fun _ _ h => .pure h
    · exact .bind_set (.bind (hg.item s) fun _ _ h => .pure h)
    · refine .bind (hg.statement t) fun e u he => ?_
      exact .bind_writes (he.withAttributes h).1 (.markIf _) fun _ _ h => .pure h
  split
  · exact .bind (.pure hattributes) hbehind
  · exact .bind (.pure hattributes) hbehind

theorem statementsFor (fuel : Nat) : (g.statementsFor fuel).Writes := by
  induction fuel with
  | zero => exact .nothing
  | succ fuel ih =>
    intro s
    unfold Grammar.statementsFor
    refine .bind (WritesAs.flatten (.take 1) s) fun semicolons t hsemicolons => .bind_ahead ?_
    refine .ite (fun _ => .pure hsemicolons) fun _ => ?_
    refine .bind_took hsemicolons hg.oneStatement fun (this, unended) u hthis => .bind_ahead ?_
    exact .guard fun _ => .append hthis ih

theorem readStatements : g.readStatements.Writes :=
  fun s => .bind_rest (hg.statementsFor _ s)

/-! ## Parameters -/

theorem receiver : g.receiver.Writes := by
  refine fun s => .bind (Writes.markIf _ s) fun ampersand t hampersand => ?_
  refine .bind_branch (fun _ => Writes.nothing t) (fun _ => Writes.lifetimeIf t) ?_
  intro start u hstart
  refine .bind_writes (hampersand.append hstart) (.inOrder ⟨.wordIf _, .word _⟩) ?_
  intro this v hthis
  refine .bind_branch (fun _ => ?_) (fun _ => Writes.nothing v) fun type w htype => ?_
  · exact .writes (.optionally (.inOrder ⟨.take 1, hg.typeTokens⟩))
  · exact .pure (hthis.append htype)

theorem paramForm {s t : Progress} {items attributes : Tokens} (hitems : ReachesItem items)
    (hattributes : AttributeRun attributes) (h : TookParams s (items ++ attributes) t) :
    g.paramForm.Ensures t fun r u => TookParams s (items ++ attributes ++ paramTokens r) u := by
  refine .bind_attempt (fun this u hthis => .pure (h.append (hg.receiver t this u hthis))) ?_
  refine .bind_ahead (.ite (fun hanonymous => ?_) fun _ => ?_)
  · obtain ⟨hname, hless⟩ := Bool.and_eq_true_iff.1 hanonymous
    have hblank := TookParams.anonymous hitems hattributes h hname hless
    refine .bind (hg.type true t) fun type u htype => .pure ?_
    simpa [paramTokens, ParamForm.tokens, plainPattern] using hblank.append htype.1
  · refine .bind (hg.pattern t) fun pattern u hpattern => ?_
    refine .bind (ensures_mark ":" u) fun colon v ⟨hcolon, hmark⟩ => .bind_ahead ?_
    refine .ite (fun _ => .pure (h.append (hpattern.1.append hcolon))) fun _ => ?_
    refine .bind (hg.type true v) fun type w htype => .pure ?_
    have htook := (hpattern.1.append (hcolon.respell (hmark.respells (by decide) _))).append htype.1
    rw [List.append_assoc] at htook
    exact h.append htook

/-- Parameters behind those that were seen. -/
theorem paramsFor (fuel : Nat) {seen : List FunctionParam} {s t : Progress}
    (hseen : ReachesItem (seen.reverse.flatMap (·.tokens)))
    (h : TookParams s (seen.reverse.flatMap (·.tokens)) t) :
    (g.paramsFor fuel seen).Ensures t fun r u => TookParams s (paramsTokens r) u := by
  induction fuel generalizing seen t with
  | zero =>
    rw [← List.append_nil (List.flatMap _ _)] at h
    exact .pure h
  | succ fuel ih =>
    unfold Grammar.paramsFor
    refine .bind_ahead (.ite (fun _ => ?_) fun _ => ?_)
    · rw [← List.append_nil (List.flatMap _ _)] at h
      exact .pure h
    refine .bind (hg.ensures_attributes t) fun attributes u ⟨hattributes, hrun⟩ => .bind_ahead ?_
    have hstart := h.append hattributes
    refine .ite (fun _ => ?_) fun _ => ?_
    · refine .bind (ensures_variadicBehind _ u) ?_
      rintro _ v ⟨more, rfl, hmore⟩
      refine .pure ?_
      simpa [paramsTokens] using hstart.append hmore
    refine .bind (hg.paramForm hseen hrun hstart) fun form v hform => ?_
    cases form with
    | error name =>
      refine .bind (ensures_variadicBehind _ v) ?_
      rintro _ w ⟨more, rfl, hmore⟩
      refine .pure ?_
      simpa [paramsTokens, paramTokens] using hform.append hmore
    | ok form =>
      have hnext (comma : Bool) : (⟨attributes, form, comma⟩ :: seen).reverse.flatMap (·.tokens) =
          seen.reverse.flatMap (·.tokens) ++ attributes.flatMap (·.tokens) ++ form.tokens ++
            commaTokens comma := by
        simp [FunctionParam.tokens]
      refine .ite (fun _ => .throw) fun _ => .ite (fun _ => .throw) fun _ => .bind_ahead ?_
      refine .ite (fun _ => .pure ?_) fun _ => ?_
      · rw [paramsTokens, List.append_nil, hnext]
        simpa [commaTokens, paramTokens] using hform
      · refine .bind (ensures_mark_unjoined (by decide) v) fun _ w hcomma => ih ?_ ?_
        · rw [hnext]
          exact .of_comma _ false
        · rw [hnext]
          exact hform.append hcomma

/-- What is between the parentheses is told by the `fn` and the name in front of them. -/
theorem params (s : Progress) :
    g.params.Ensures s fun r t => ∀ {s' : Progress} {front lead : Tokens}, LeadsParams lead →
      Took s' (front ++ lead) s → Took s' (front ++ lead ++ [.group .paren (paramsTokens r)]) t := by
  unfold Grammar.params
  exact ensures_inside_behind (fun s => .bind_rest (hg.paramsFor _ (.inl rfl) (.refl s))) s

/-! ## Signatures -/

theorem signature (safe : Bool) : (g.signature safe).WritesAs (·.tokens) := by
  intro s
  unfold Grammar.signature
  refine .bind (Writes.wordIf _ s) fun const t hconst => ?_
  refine .bind_writes hconst (.wordIf _) fun async u hasync => .bind_ahead ?_
  refine .bind_branch (fun _ => Writes.take 1 u) (fun _ => Writes.wordIf _ u) fun safety v hsafety => ?_
  refine .bind_writes (hasync.append hsafety) writes_convention fun convention w hconvention => ?_
  refine .bind (ensures_word _ w) fun _ x ⟨_, hfn⟩ => ?_
  refine .bind_took (hconvention.append hfn) writesAs_name fun name y hname => ?_
  refine .bind_took hname hg.generics fun generics z hgenerics => ?_
  rw [List.append_assoc, List.append_assoc] at hgenerics
  refine .bind (hg.params z) fun (params, variadic) s₁ hparams => ?_
  have hlisted := hparams ⟨name, generics, rfl⟩ hgenerics
  refine .bind_writes hlisted (hg.output true) fun output s₂ houtput => ?_
  refine .bind_writes houtput hg.conditions fun conditions s₃ hconditions => .pure ?_
  simpa [Signature.tokens, paramsTokens] using hconditions

end Faithful

end Grammar

end ScreenRoutes
