import ScreenRoutes.Grammar.Generics
import ScreenRoutes.Proofs.Spelling.Path

/-!
# Generic parameters and bounds

Brackets, colons and `where` that hold nothing are left out; bounds stay, and so do conditions.
-/

namespace ScreenRoutes

open Reading Tokens

/-- Bounds are written with what stands in front of them, which is left out where there are none. -/
theorem Took.boundedTokens {s t : Progress} {start : Tokens} {bounds : List (Tokens × Tokens)}
    (h : Took s (start ++ listTokens bounds) t)
    (hempty : bounds = [] → Respells t.rest start []) :
    Took s (Grammar.boundedTokens start bounds) t := by
  unfold Grammar.boundedTokens
  split
  · next hnone =>
    obtain rfl := List.isEmpty_iff.1 hnone
    rw [listTokens, List.flatMap_nil, List.append_nil] at h
    exact h.respell (hempty rfl)
  · exact h

/-- The colon of bounds, which is left out where these end at once. -/
theorem Reading.OptionalMark.respells_emptyBounds {colon behind : Tokens}
    (h : OptionalMark ":" colon) (hends : endsBounds behind) : Respells behind colon [] := by
  refine (h.respells (by decide) behind).trans ?_
  split
  · exact .of (.emptyBounds hends)
  · exact .refl _ _

namespace Grammar

/-- Generic parameters, or no brackets where there are none. -/
theorem respells_genericTokens (items : List AngledItem) (behind : Tokens) :
    Respells behind (angledTokens items) (genericTokens items) := by
  unfold genericTokens
  split
  · next hempty =>
    obtain rfl := List.isEmpty_iff.1 hempty
    exact .of .emptyParameters
  · exact .refl _ _

theorem ensures_lifetimeParam (s : Progress) :
    lifetimeParam.Ensures s fun ts t => Took s ts t ∧ startsLifetime ts := by
  refine .bind (ensures_lifetime s) fun this t ⟨hthis, hstarts⟩ => ?_
  refine .bind (ensures_markIf ":" t) fun colon u hcolon => ?_
  refine .ite (fun hnone => ?_) fun _ => ?_
  · have := hthis.append hcolon.1
    rw [List.isEmpty_iff.1 hnone, List.append_nil] at this
    exact .pure ⟨this, hstarts⟩
  · refine .bind (ensures_list Writes.lifetime u) fun bounds v hbounds => .pure ?_
    refine ⟨?_, startsLifetime_append _ hstarts⟩
    refine hthis.append ((hcolon.1.append hbounds.1.1).boundedTokens fun hnone => ?_)
    exact hcolon.2.respells_emptyBounds (by grind [endsBounds, startsAnyMark])

theorem ensures_captured (s : Progress) : captured.Ensures s (TookAngled s) := by
  unfold captured
  refine .bind_rest ?_
  extract_lets behind
  have hbehind (item : AngledKind × Tokens) (t : Progress) (h : TookAngled s item t) :
      (behind item).Ensures t (TookAngled s) := by
    exact .bind_ahead (.ite (fun _ => .pure h) fun _ => .expectedOneOf)
  refine .ite (fun _ => ?_) fun _ => .ite (fun _ => ?_) fun _ => ?_
  · refine .bind (ensures_lifetime s) fun _ _ h => .bind (.pure ?_) hbehind
    exact ⟨h.1, fun _ => .of_start h.2⟩
  · refine .bind (Writes.take 1 s) fun _ _ h => .bind (.pure ?_) hbehind
    exact .plain (by decide) h
  · exact .bind .expectedOneOf hbehind

theorem writes_captures : captures.Writes := by
  refine fun s => .bind (Writes.word _ s) fun start t hstart => ?_
  exact .bind_took hstart (.angledItems ensures_captured) fun _ _ h => .pure h

/-- A bound that starts with `?` is written with it in front. -/
theorem ensures_traitBound_relaxed (g : Grammar) (constant : Bool) {s : Progress}
    (h : startsMark "?" s.rest) :
    (g.traitBound constant).Ensures s fun b _ => startsMark "?" b.2 := by
  obtain ⟨joint, more, hrest⟩ := exists_of_startsMark rfl h
  have hword (w : String) : ¬ startsWord w s.rest := by
    rw [hrest]
    exact Bool.false_ne_true
  have hgroup : ¬ startsGroup .bracket s.rest := by
    rw [hrest]
    exact Bool.false_ne_true
  unfold traitBound
  refine .bind (m := fun _ t => t = s) ?_ ?_
  · exact .bind_ahead (.ite (absurd · (hword _)) fun _ => .pure rfl)
  rintro early t rfl
  refine .bind_ahead (.bind_branch (m := fun _ u => u = t) (absurd · hgroup) (fun _ => ?_) ?_)
  · exact .bind_ahead (.ite (absurd · (hword _)) fun _ => .pure rfl)
  rintro const u rfl
  refine .guard fun _ => .bind (m := fun ts _ => startsMark "?" ts) ?_ ?_
  · refine .bind_ahead (.ite (fun _ => .bind_take (.pure ?_)) fun hmark => absurd h hmark)
    rw [hrest]
    rfl
  intro relaxed v hrelaxed
  refine .bind_branch (m := fun _ _ => True) (fun _ _ _ _ => trivial) (fun _ _ _ _ => trivial) ?_
  refine fun late w _ => .bind_any fun p x => .bind_any fun p' y => .guard fun _ => .pure ?_
  obtain ⟨joint, more, rfl⟩ := exists_of_startsMark rfl hrelaxed
  rfl

namespace Faithful

variable {g : Grammar} (hg : g.Faithful)

include hg

/-! ## Parameters -/

theorem colonBounds {stops : Tokens → Bool} (hstops : ∀ ts, stops ts → endsBounds ts) :
    (g.colonBounds stops).Writes := by
  intro s
  refine .bind (ensures_markIf ":" s) fun colon t hcolon => ?_
  refine .ite (fun hnone => ?_) fun _ => ?_
  · rw [List.isEmpty_iff.1 hnone] at hcolon
    exact .pure hcolon.1
  · refine .bind (ensures_list (hg.boundTokens false true) t) fun bounds u hbounds => ?_
    refine .pure ?_
    refine (hcolon.1.append hbounds.1.1).boundedTokens fun hnone => ?_
    exact hcolon.2.respells_emptyBounds (hstops _ (hbounds.2 hnone))

theorem typeParam : g.typeParam.Writes := by
  unfold Grammar.typeParam
  refine .inOrder ⟨.nameTokens, hg.colonBounds ?_, .optionally (.inOrder ⟨.take 1, hg.typeTokens⟩)⟩
  intro ts h
  grind [endsBounds, startsAnyMark]

theorem constantParam : g.constantParam.Writes := by
  unfold Grammar.constantParam
  exact .inOrder ⟨.word _, .nameTokens, .mark _, hg.typeTokens,
    .optionally (.inOrder ⟨.take 1, hg.constant⟩)⟩

theorem genericParam (declared : Bool) (s : Progress) :
    (g.genericParam declared).Ensures s (TookAngled s) := by
  refine .bind (hg.ensures_attributeTokens s) fun attributes t ⟨hattributes, hrun, _⟩ => .bind_rest ?_
  refine .ite (fun _ => ?_) fun _ => .ite (fun _ => ?_) fun _ => .ite (fun _ => ?_) fun _ =>
    .ite (fun _ => ?_) fun _ => .ite (fun _ => .expectedOneOf) fun _ => .expectedOneOf
  · refine .bind (ensures_lifetimeParam t) fun param u hparam => .pure ?_
    exact ⟨hattributes.append hparam.1, fun _ => ⟨attributes, param, hrun, rfl, hparam.2⟩⟩
  · exact .bind_writes hattributes hg.typeParam fun _ _ h => .pure (.plain (by decide) h)
  · exact .bind_writes hattributes hg.constantParam fun _ _ h => .pure (.plain (by decide) h)
  · exact .bind_writes hattributes (.take 1) fun _ _ h => .pure (.plain (by decide) h)

theorem generics : g.generics.WritesAs genericTokens := by
  refine fun s => .bind_ahead (.ite (fun _ => ?_) fun _ => .pure (.refl s))
  refine (WritesAs.angledItems (hg.genericParam true) s).mono fun items t hitems => ?_
  exact hitems.respell (respells_genericTokens items _)

theorem genericsTokens : g.genericsTokens.Writes :=
  fun s => .bind (hg.generics s) fun _ _ h => .pure h

/-- Lifetimes that hold for what follows stand between angle brackets behind `for`. -/
theorem ensures_binder (s : Progress) :
    g.binder.Ensures s fun ts t => Took s ts t ∧
      ∃ params, ∀ behind, Respells behind ts
        (.ident "for" :: TokenTree.mark "<" ++ params ++ TokenTree.mark ">") := by
  have hparam : (do return (← g.genericParam false).2 : Reading Tokens).Writes :=
    fun s => .bind (hg.genericParam false s) fun _ _ h => .pure h.1
  unfold Grammar.binder
  rw [inOrder_cons, inOrder_cons, inOrder_nil]
  simp only [bind_assoc, pure_bind]
  refine .bind (ensures_word "for" s) ?_
  rintro _ t ⟨rfl, hfor⟩
  refine .bind (ensures_mark "<" t) fun less u hless => ?_
  refine .bind_took (hfor.append hless.1) (.listTokens hparam) fun params v hparams => ?_
  refine .bind (ensures_mark ">" v) fun greater w hgreater => .pure ?_
  rw [List.append_nil]
  refine ⟨hparams.append hgreater.1, listTokens params, fun behind => ?_⟩
  refine .append (.append_right _ ?_) (hgreater.2.respells (by decide) _)
  exact .append_left [.ident "for"] (hless.2.respells (by decide) _)

theorem binder : g.binder.Writes :=
  fun s => (hg.ensures_binder s).mono fun _ _ h => h.1

/-! ## Bounds -/

/-- A bound that is constant stays as it stands, so its trees are not put together again. -/
theorem ensures_traitBound (constant : Bool) (s : Progress) :
    (g.traitBound constant).Ensures s fun b t =>
      TookIf s (if b.1 then none else some b.2) t ∧ (b.1 → constant) := by
  unfold Grammar.traitBound
  refine .bind (Writes.optionally hg.binder s) fun early t hearly => .bind_ahead ?_
  refine .bind_branch (fun _ => Writes.group .bracket (.word _) t) (fun _ => Writes.wordIf _ t) ?_
  intro const u hconst
  refine .guard fun hallowed => ?_
  refine .bind_writes (hearly.append hconst) (.markIf _) fun relaxed v hrelaxed => ?_
  refine .bind_branch (fun _ => Writes.optionally hg.binder v) (fun _ => Writes.nothing v) ?_
  intro late w hlate
  refine .bind (hg.path false w) fun p x hp => ?_
  refine .bind (hg.called hp.1) fun p' y hp' => .guard fun hguard => .pure ⟨?_, ?_⟩
  · have htook := (hrelaxed.append hlate).append hp'.1
    dsimp only [id] at htook ⊢
    split
    · exact htook.moved.none
    · next hconst' =>
      -- a relaxed bound has no lifetimes in front, so the `?` may come first
      have horder : early ++ const ++ relaxed ++ late = relaxed ++ (early ++ late) := by
        have hconst : const = [] := by simpa using hconst'
        rw [hconst]
        rcases em (relaxed = []) with hrelaxed | hrelaxed
        · simp [hrelaxed]
        · have : early = [] ∧ late = [] := by simpa [hrelaxed] using hguard
          simp [this.1, this.2]
      exact Took.some (horder ▸ htook)
  · intro hconst
    have hne : const ≠ [] := by simpa using hconst
    simpa [hne] using hallowed

theorem traitBound (constant : Bool) :
    (g.traitBound constant).MayWriteAs fun b => if b.1 then none else some b.2 :=
  fun s => (hg.ensures_traitBound constant s).mono fun _ _ h => h.1

theorem enclosedTrait (constant : Bool) : (g.enclosedTrait constant).MayWrite := by
  refine fun s => .bind_ahead (.ite (fun _ => ?_) fun _ => ?_)
  · refine .bind (MayWriteAs.inside .paren (hg.traitBound constant) s) fun (fixed, ts) t h => .pure ?_
    cases fixed with
    | true => exact h
    | false => exact h
  · exact .bind (hg.traitBound constant s) fun (fixed, ts) t h => .pure h

theorem readBound (capture constant : Bool) : (g.readBound capture constant).WritesAs (·.tokens) := by
  refine fun s => .bind_rest (.ite (fun _ => ?_) fun _ => .ite (fun _ => ?_) fun _ => ?_)
  · exact .bind (Writes.lifetime s) fun _ _ h => .pure h
  · exact .bind (writes_captures s) fun _ _ h => .ite (fun _ => .pure h) fun _ => .throw
  · exact .bind (Writes.orAsWritten (hg.enclosedTrait constant) s) fun _ _ h => .pure h

theorem moreBounds (capture constant : Bool) :
    (g.moreBounds capture constant).WritesAs boundsTokens :=
  .list (hg.bound capture constant)

theorem bounds (plus capture constant : Bool) :
    (g.bounds plus capture constant).WritesAs boundsTokens := by
  intro s
  unfold Grammar.bounds
  refine .bind (hg.bound capture constant s) fun first t hfirst => .bind_ahead ?_
  refine .ite (fun _ => ?_) fun _ => .pure ?_
  · refine .bind_writes hfirst (.take 1) fun mark u hmark => ?_
    exact .bind_took hmark (hg.moreBounds _ _) fun _ _ h => .pure h
  · simpa [boundsTokens] using hfirst

/-! ## Conditions -/

theorem condition : g.condition.Writes := by
  refine fun s => .bind_rest (.ite (fun _ => ?_) fun _ => ?_)
  · refine .bind (.writes (.inOrder ⟨.lifetime, .take 1⟩)) fun start t hstart => ?_
    exact .bind_took hstart (.listTokens .lifetime) fun _ _ h => .pure h
  · refine .bind (.writes (.inOrder ⟨.optionally hg.binder, hg.typeTokens, .mark _⟩)) ?_
    intro start t hstart
    exact .bind_took hstart (.listTokens (hg.boundTokens _ _)) fun _ _ h => .pure h

/-- Only a `where` that no condition follows is left out; without one there are no conditions. -/
theorem ensures_conditions (s : Progress) :
    g.conditions.Ensures s fun ts t => Took s ts t ∧ (¬ startsWord "where" s.rest → ts = []) := by
  refine .bind_ahead (.ite (fun hwhere => ?_) fun _ => .pure ⟨.refl s, fun _ => rfl⟩)
  refine .bind (ensures_take_word hwhere) ?_
  rintro _ t ⟨rfl, hstart⟩
  refine .bind_ahead (.guard fun _ => ?_)
  refine .bind (ensures_list hg.condition t) fun found u hfound => ?_
  refine .pure ⟨?_, absurd hwhere⟩
  refine (hstart.append hfound.1.1).boundedTokens fun hnone => ?_
  exact .of (.emptyConditions (hfound.2 hnone))

theorem conditions : g.conditions.Writes :=
  fun s => (hg.ensures_conditions s).mono fun _ _ h => h.1

end Faithful

end Grammar

end ScreenRoutes
