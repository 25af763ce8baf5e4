import ScreenRoutes.Grammar.Type
import ScreenRoutes.Proofs.Spelling.Generics

/-!
# Types

A type stays but for the parentheses of a relaxed bound, and for lifetimes in front of a call.
-/

namespace ScreenRoutes

open Reading Tokens

theorem TookType.behind {s t u : Progress} {e : TypeText} (h : Took s [] t) (he : TookType t e u) :
    TookType s e u :=
  ⟨h.append he.1, he.2⟩

theorem TookType.plain {s t : Progress} {ts : Tokens} (h : Took s ts t) :
    TookType s (Grammar.plainType ts) t :=
  ⟨h, nofun⟩

theorem not_startsMark_of_startsIdent {ts : Tokens} (h : startsIdent ts) : ¬ startsMark "<" ts := by
  cases ts with
  | nil => cases h
  | cons t ts =>
    cases t with
    | ident => exact Bool.false_ne_true
    | _ => cases h

namespace Grammar

/-! ## Calls of what stands for code -/

theorem ensures_anyGroup (s : Progress) :
    anyGroup.Ensures s fun ts t => Took s ts t ∧ ∃ d inside, ts = [.group d inside] := by
  refine .bind_rest ?_
  split
  · next d inside more hrest =>
    refine (ensures_take 1 s).mono ?_
    rintro _ t ⟨rfl, htook⟩
    exact ⟨htook, d, inside, by rw [hrest]; rfl⟩
  · exact .expected

theorem ensures_invocation (s : Progress) :
    invocation.Ensures s fun ts t => Took s ts t ∧
      ∃ joint d inside, ts = [.punct '!' joint, .group d inside] := by
  unfold invocation
  rw [inOrder_cons, inOrder_cons, inOrder_nil]
  simp only [bind_assoc, pure_bind]
  refine .bind (ensures_mark "!" s) fun bang t ⟨hbang, hmark⟩ => ?_
  refine .bind (ensures_anyGroup t) ?_
  rintro _ u ⟨hgroup, d, inside, rfl⟩
  obtain ⟨more, hstarts, rfl⟩ := hmark
  obtain ⟨joint, more, rfl⟩ := exists_of_startsMark rfl hstarts
  exact .pure ⟨hbang.append hgroup, joint, d, inside, rfl⟩

theorem writes_invocation : invocation.Writes :=
  fun s => (ensures_invocation s).mono fun _ _ h => h.1

theorem writes_convention : convention.Writes := by
  unfold convention
  exact .optionally (.inOrder ⟨.take 1, .optionally (.take 1)⟩)

def Parenthesized.tokens : Parenthesized → Tokens
  | .tuple ts | .lifetimes ts | .relaxed ts => ts
  | .single type => type.tokens

/-- Whether what parentheses hold keeps the bound that it is. -/
def Parenthesized.KeepsBound : Parenthesized → Prop
  | .tuple _ | .lifetimes _ => True
  | .relaxed bare => startsMark "?" bare
  | .single type => type.KeepsBound

/-- Bounds that stand for a type have the first one between parentheses if that is relaxed. -/
theorem keepsBound_boundsType {bare more : Tokens} (h : more = [] → startsMark "?" bare) :
    (boundsType bare [.group .paren bare] more).KeepsBound := by
  intro bare' hbare
  by_cases hnone : more = []
  · subst hnone
    cases hbare
    exact .inr ⟨rfl, h rfl⟩
  · have hother : (boundsType bare [.group .paren bare] more).form = .other := by
      simp [boundsType, hnone]
    rw [TypeText.bare?, hother] at hbare
    cases hbare

namespace Faithful

variable {g : Grammar} (hg : g.Faithful)

include hg

/-! ## Bounds as types -/

theorem addedBounds : g.addedBounds.Writes := by
  intro s
  have hbound : (inOrder [take 1, g.boundTokens false false]).Writes :=
    .inOrder ⟨.take 1, hg.boundTokens _ _⟩
  exact .bind (WritesAs.flatten hbound s) fun _ _ h => .pure h

omit hg in
/-- Where a `+` follows there is another bound. -/
theorem ensures_addedBounds {s : Progress} (h : startsMark "+" s.rest) :
    g.addedBounds.Ensures s fun ts _ => ts ≠ [] := by
  have hbound : (inOrder [take 1, g.boundTokens false false]).Ensures s fun ts _ => ts ≠ [] := by
    obtain ⟨joint, more, hrest⟩ := exists_of_startsMark rfl h
    rw [inOrder_cons]
    refine .bind_take (.bind_any fun ts t => .pure ?_)
    rw [hrest]
    exact List.cons_ne_nil _ _
  refine .bind (.repeatWhile_cons h hbound) ?_
  rintro _ u ⟨a, more, t, rfl, ha⟩
  refine .pure ?_
  simp [ha]

theorem objectBounds (plus : Bool) : (g.objectBounds plus).WritesAs boundsTokens :=
  fun s => .bind (hg.bounds plus false false s) fun _ _ h => .ite (fun _ => .pure h) fun _ => .throw

/-- Only what has no `*` is written in another way than it stands. -/
theorem dynType (plus : Bool) (s : Progress) : (g.dynType plus).Ensures s (TookType s) := by
  unfold Grammar.dynType
  refine .bind (.writes (.orAsWritten fun s => ?_)) fun ts t h => .pure (.plain h)
  refine .bind (Writes.word _ s) fun start t hstart => ?_
  refine .bind_writes hstart (.markIf _) fun star u hstar => ?_
  refine .bind_took hstar (hg.objectBounds plus) fun bounds v hbounds => .pure ?_
  dsimp only [id] at hbounds ⊢
  split
  · next hnone =>
    rw [List.isEmpty_iff.1 hnone, List.append_nil] at hbounds
    exact hbounds.some
  · exact hbounds.moved.none

theorem implType (plus : Bool) (s : Progress) : (g.implType plus).Ensures s (TookType s) := by
  refine .bind (Writes.word _ s) fun start t hstart => ?_
  refine .bind_took hstart (hg.bounds plus true true) fun bounds u hbounds => ?_
  exact .ite (fun _ => .pure (.plain hbounds)) fun _ => .throw

theorem lifetimeType (plus : Bool) (s : Progress) : (g.lifetimeType plus).Ensures s (TookType s) :=
  .bind (hg.objectBounds plus s) fun _ _ h => .pure (.plain h)

/-! ## Types between parentheses -/

theorem parenthesized (s : Progress) :
    g.parenthesized.Ensures s fun p t => Took s p.tokens t ∧ p.KeepsBound := by
  refine .bind_rest (.ite (fun _ => ?_) fun _ => .ite (fun _ => ?_) fun _ =>
    .ite (fun hrelaxed => ?_) fun _ => ?_)
  · exact .pure ⟨.refl s, trivial⟩
  · exact .bind (hg.lifetimeType true s) fun _ _ h => .pure ⟨h.1, trivial⟩
  · refine .bind ((hg.ensures_traitBound false s).and (ensures_traitBound_relaxed g false hrelaxed)) ?_
    rintro ⟨fixed, ts⟩ t ⟨⟨htook, hfixed⟩, hmark⟩
    cases fixed with
    | true => cases hfixed rfl
    | false => exact .pure ⟨htook.2 ts rfl, hmark⟩
  · refine .bind (hg.type true s) fun first t hfirst => .bind_ahead (.ite (fun _ => ?_) fun _ => ?_)
    · refine .bind_writes hfirst.1 (.take 1) fun comma u hcomma => ?_
      refine .bind_writes hcomma (.commaList hg.typeTokens) fun more v hmore => ?_
      exact .pure ⟨hmore, trivial⟩
    · exact .pure hfirst

/-- Parentheses stay, but for one pair of those around a relaxed bound that `+` follows. -/
theorem parenType (plus : Bool) (s : Progress) : (g.parenType plus).Ensures s (TookType s) := by
  have hinside : (inside .paren g.parenthesized).Ensures s fun p t =>
      Took s [.group .paren p.tokens] t ∧ p.KeepsBound := by
    refine .and (WritesAs.inside .paren (fun s => ?_) s) (.inside .paren fun s => ?_)
    · exact (hg.parenthesized s).mono fun _ _ h => h.1
    · exact (hg.parenthesized s).mono fun _ _ h => h.2
  unfold Grammar.parenType
  refine .bind hinside fun p t ⟨htook, hkeeps⟩ => ?_
  cases p with
  | tuple ts => exact .pure (.plain htook)
  | lifetimes ts => exact .pure (.plain htook)
  | relaxed bare =>
    refine .bind_writes htook hg.addedBounds fun more u hmore => .pure ⟨hmore, ?_⟩
    exact keepsBound_boundsType fun _ => hkeeps
  | single first =>
    dsimp only
    cases hbare : first.bare? with
    | none => exact .pure (.plain htook)
    | some bare =>
      refine .bind_ahead (.ite (fun hplus => ?_) fun _ => .pure (.plain htook))
      have hmark : startsMark "+" t.rest := (Bool.and_eq_true_iff.1 hplus).2
      have henclosed : Took s [.group .paren bare] t := by
        rcases hkeeps bare hbare with heq | ⟨heq, hrelaxed⟩
        · rw [← heq]
          exact htook
        · refine htook.respell ?_
          rw [Parenthesized.tokens, heq]
          exact .of (.relaxed hrelaxed hmark)
      refine .bind ((hg.addedBounds t).and (ensures_addedBounds hmark)) fun more u ⟨hmore, hne⟩ => ?_
      exact .pure ⟨henclosed.append hmore, keepsBound_boundsType fun hnone => absurd hnone hne⟩

/-! ## Pointers to functions -/

theorem pointerParam (isFirst : Bool) : (g.pointerParam isFirst).Writes := by
  refine fun s => .bind_rest (.ite (fun _ => ?_) fun _ => .ite (fun _ => ?_) fun _ => hg.typeTokens s)
  · refine .writes (.asWritten (Writes.moves (.inOrder ⟨.take 2, .optionally ?_⟩)))
    exact .inOrder ⟨.take 1, hg.typeTokens⟩
  · exact .writes (.inOrder ⟨.take 2, hg.typeTokens⟩)

theorem pointerParamsFor (fuel : Nat) (isFirst : Bool) :
    (g.pointerParamsFor fuel isFirst).Writes := by
  induction fuel generalizing isFirst with
  | zero => exact .nothing
  | succ fuel ih =>
    intro s
    unfold Grammar.pointerParamsFor
    refine .bind_ahead (.ite (fun _ => .pure (.refl s)) fun _ => ?_)
    refine .bind (hg.attributeTokens s) fun attributes t hattributes => .bind_ahead ?_
    refine .ite (fun _ => ?_) fun _ => ?_
    · refine .bind_writes hattributes (.optionally (.take 2)) fun name u hname => ?_
      refine .bind_writes hname (.mark _) fun dots v hdots => ?_
      exact .append hdots (.markIf _)
    · refine .bind_writes hattributes (hg.pointerParam isFirst) fun this u hthis => .bind_ahead ?_
      refine .ite (fun _ => .pure hthis) fun _ => ?_
      refine .bind_writes hthis (.mark _) fun comma v hcomma => ?_
      exact .append hcomma (ih false)

theorem pointerType : g.pointerType.Writes := by
  unfold Grammar.pointerType
  refine .inOrder ⟨.wordIf _, writes_convention, .word _, .group .paren fun s => ?_, hg.output false⟩
  exact .bind_rest (hg.pointerParamsFor _ true s)

/-! ## All types -/

theorem bracketType : g.bracketType.Writes := by
  unfold Grammar.bracketType
  exact .group .bracket
    (.inOrder ⟨hg.typeTokens, .optionally (.inOrder ⟨.take 1, hg.exprTokens⟩)⟩)

theorem rawPointerType : g.rawPointerType.Writes := by
  refine fun s => .bind (Writes.mark _ s) fun start t hstart => .bind_ahead ?_
  refine .ite (fun _ => ?_) fun _ => .expectedOneOf
  refine .bind_writes hstart (.take 1) fun word u hword => ?_
  exact .bind (hg.type false u) fun type v htype => .pure (hword.append htype.1)

theorem referenceType : g.referenceType.Writes := by
  unfold Grammar.referenceType
  refine .inOrder ⟨.mark _, .lifetimeIf, .wordIf _, fun s => ?_⟩
  exact .bind (hg.type false s) fun _ _ h => .pure h.1

/-- Lifetimes stay in front of a path unless it is the path of a call. -/
theorem pathType (plus : Bool) {binder : Tokens} {s t : Progress} (h : Took s binder t)
    (hbinder : binder = [] ∨ ¬ startsMark "<" t.rest ∧ ∃ params, ∀ behind, Respells behind binder
      (.ident "for" :: TokenTree.mark "<" ++ params ++ TokenTree.mark ">")) :
    (g.pathType plus binder).Ensures t (TookType s) := by
  unfold Grammar.pathType
  refine .bind (hg.ensures_qualifiedPath false t) fun p u ⟨hp, hqualifier⟩ => ?_
  refine .bind (hg.called hp) fun p' v ⟨hp', hqualifier'⟩ => .bind_rest ?_
  have hwritten : Took s (binder ++ p'.tokens) v := h.append hp'
  refine .ite (fun hqualified => .pure (.plain ?_)) fun _ => .ite (fun hcall => ?_) fun _ =>
    .ite (fun _ => ?_) fun _ => .ite (fun _ => ?_) fun _ => ?_
  · rcases hbinder with rfl | ⟨hless, -⟩
    · exact hwritten
    · rw [Path.isQualified, hqualifier', hqualifier hless] at hqualified
      cases hqualified
  · refine .bind (ensures_invocation v) ?_
    rintro _ w ⟨hinvocation, joint, d, inside, rfl⟩
    have hcalled := hwritten.append hinvocation
    refine .pure (.plain ?_)
    rcases hbinder with rfl | ⟨-, params, hspells⟩
    · exact hcalled
    · refine hcalled.respell (.trans (.append_right _ (.append_right _ (hspells _))) ?_)
      exact .of (.binder (Bool.and_eq_true_iff.1 hcall).1)
  · refine .bind_writes hwritten (.take 1) fun start w hstart => ?_
    exact .bind_took hstart (hg.moreBounds false false) fun _ _ h => .pure (.plain h)
  · refine .pure ⟨hwritten, ?_⟩
    rintro _ ⟨⟩
    exact .inl rfl
  · refine .pure ⟨hwritten, ?_⟩
    rintro _ ⟨⟩
    exact .inl rfl

theorem readType (plus : Bool) (s : Progress) : (g.readType plus).Ensures s (TookType s) := by
  have hbinder : (optionally (startsWord "for") g.binder).Ensures s fun ts t => Took s ts t ∧
      (ts = [] ∨ ∃ params, ∀ behind, Respells behind ts
        (.ident "for" :: TokenTree.mark "<" ++ params ++ TokenTree.mark ">")) := by
    refine .bind_ahead (.ite (fun _ => ?_) fun _ => .pure ⟨.refl s, .inl rfl⟩)
    exact (hg.ensures_binder s).mono fun _ _ h => ⟨h.1, .inr h.2⟩
  unfold Grammar.readType
  refine .bind hbinder fun binder t ⟨htook, hbinder⟩ => .bind_rest ?_
  dsimp only
  refine .ite (fun _ => ?_) fun _ => .ite (fun hpath => ?_) fun _ =>
    .ite (fun _ => .expectedOneOf) fun hnone => ?_
  · exact .bind_writes htook hg.pointerType fun _ _ h => .pure (.plain h)
  · refine hg.pathType plus htook ?_
    by_cases hnone : binder = []
    · exact .inl hnone
    · have hident : startsIdent t.rest := by simpa [hnone] using (Bool.and_eq_true_iff.1 hpath).2
      exact .inr ⟨not_startsMark_of_startsIdent hident, hbinder.resolve_left hnone⟩
  · obtain rfl : binder = [] := by simpa using hnone
    refine Ensures.mono (r := TookType t) ?_ fun _ _ => TookType.behind htook
    refine .ite (fun _ => hg.parenType plus t) fun _ => .ite (fun _ => hg.dynType plus t) fun _ =>
      .ite (fun _ => ?_) fun _ => .ite (fun _ => ?_) fun _ => .ite (fun _ => ?_) fun _ =>
      .ite (fun _ => ?_) fun _ => .ite (fun _ => hg.implType plus t) fun _ =>
      .ite (fun _ => ?_) fun _ => .ite (fun _ => hg.lifetimeType plus t) fun _ => .expectedOneOf
    · exact .bind (hg.bracketType t) fun _ _ h => .pure (.plain h)
    · exact .bind (hg.rawPointerType t) fun _ _ h => .pure (.plain h)
    · exact .bind (hg.referenceType t) fun _ _ h => .pure (.plain h)
    · exact .bind (Writes.take 1 t) fun _ _ h => .pure (.plain h)
    · exact .bind (Writes.take 1 t) fun _ _ h => .pure (.plain h)

end Faithful

end Grammar

end ScreenRoutes
