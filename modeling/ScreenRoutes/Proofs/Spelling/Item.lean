import ScreenRoutes.Grammar.Item
import ScreenRoutes.Proofs.Spelling.Statement

/-!
# Items

An item stays but for the visibility of a variant; one without a normal spelling stays altogether.
-/

namespace ScreenRoutes

open Reading Tokens

namespace Grammar

/-- Whether trees were taken between the braces of an enumeration. -/
abbrev TookVariants : Progress → Tokens → Progress → Prop :=
  TookInside LeadsVariants .brace

/-- The visibility of a variant is left out. -/
theorem TookVariants.leaveVisibility {s t u : Progress} {items attributes visible : Tokens}
    (h : TookVariants s (items ++ attributes) t) (hitems : ReachesItem items)
    (hattributes : AttributeRun attributes) (hvisible : Took t visible u)
    (hform : visible = [] ∨ IsVisibility visible) (hvariant : startsVariant u.rest) :
    TookVariants s (items ++ attributes) u := by
  have hkept := h.append hvisible
  rcases hform with rfl | hform
  · rwa [List.append_nil] at hkept
  · exact hkept.respell fun _ hlead _ =>
      .of (.visibility hlead hitems hattributes hform hvariant)

/-! ## Pieces of items -/

theorem writes_nameOrBlank : nameOrBlank.Writes :=
  .takeIf .expectedOneOf

theorem writes_calledItem : calledItem.Writes := by
  refine fun s => .bind_ahead (.bind (Writes.anyGroup s) fun called t hcalled => ?_)
  refine .bind_branch (fun _ => Writes.nothing t) (fun _ => Writes.mark _ t) fun stop u hstop => ?_
  exact .pure (hcalled.append hstop)

theorem writes_memberCall : memberCall.Writes := by
  unfold memberCall
  exact .inOrder ⟨writes_plainPath, .mark _, writes_calledItem⟩

theorem writes_itemCall : itemCall.Writes := by
  unfold itemCall
  exact .inOrder ⟨writes_plainPath, .mark _, .optionally (.take 1), writes_calledItem⟩

/-! ## Imports -/

theorem moves_importTreeFor (fuel : Nat) (rooted : Bool) : (importTreeFor fuel rooted).Moves := by
  induction fuel generalizing rooted with
  | zero => exact fun s => .throw
  | succ fuel ih =>
    have htake (n : Nat) : (take n).Moves := (Writes.take n).moves
    intro s
    unfold importTreeFor
    refine .bind_rest (.ite (fun _ => ?_) fun _ => .ite (fun _ => ?_) fun _ =>
      .ite (fun _ => ?_) fun _ => ?_)
    · refine .bind (htake 1 s) fun _ t ht => .bind_ahead (.ite (fun _ => ?_) fun _ => ?_)
      · exact .bind_moves ht (htake 2) fun _ u hu => (ih false u).mono fun _ _ => hu.trans
      · refine .bind_ahead (.ite (fun _ => ?_) fun _ => .pure ht)
        refine .bind_moves ht (htake 1) fun _ u hu => .bind_ahead ?_
        refine .ite (fun _ => ?_) fun _ => .expected
        exact .bind_moves hu (htake 1) fun _ _ h => .pure h
    · exact .bind (htake 1 s) fun _ _ h => .pure h
    · refine Moves.inside .brace (fun s => .bind (Moves.list (fun s => ?_) s) fun _ _ h => .pure h) s
      refine .bind_branch (fun _ => (Writes.markIf _).moves s) (fun _ => Writes.nothing.moves s) ?_
      exact fun root t ht => (ih _ t).mono fun _ _ => ht.trans
    · exact .expectedOneOf

theorem writes_importItem : importItem.Writes := by
  unfold importItem
  have hstart : (inOrder [visibility, word "use"]).Writes := .inOrder ⟨writes_visibility, .word _⟩
  refine .asWritten fun s => .bind (hstart.moves s) fun _ t ht => ?_
  refine .bind_moves ht (Writes.markIf _).moves fun root u hu => .bind_rest ?_
  refine .bind_moves hu (moves_importTreeFor _ _) fun _ v hv => ?_
  exact .bind_moves hv (Writes.mark _).moves fun _ _ h => .pure h

theorem writes_libraryItem : libraryItem.Writes := by
  unfold libraryItem
  exact .inOrder ⟨writes_visibility, .word _, .word _, .takeIf .nameTokens,
    .optionally (.inOrder ⟨.take 1, .takeIf .nameTokens⟩), .mark _⟩

namespace Faithful

variable {g : Grammar} (hg : g.Faithful)

include hg

theorem body {item : Reading Tokens} (hitem : item.Writes) : (g.body item).Writes := by
  unfold Grammar.body
  refine .group .brace fun s => .bind (hg.innerAttributes s) fun attributes t hattributes => ?_
  exact .bind_took hattributes (.flatten hitem) fun _ _ h => .pure h

theorem ensures_valueIf (s : Progress) :
    g.valueIf.Ensures s fun ts t => Took s ts t ∧ (startsMark "=" s.rest ∨ t = s) := by
  have hvalue : (inOrder [take 1, g.exprTokens]).Writes := .inOrder ⟨.take 1, hg.exprTokens⟩
  exact ensures_optionally hvalue s

theorem valueIf : g.valueIf.Writes :=
  fun s => (hg.ensures_valueIf s).mono fun _ _ h => h.1

theorem definitionIf : g.definitionIf.Writes := by
  unfold Grammar.definitionIf
  exact .optionally (.inOrder ⟨.take 1, hg.typeTokens⟩)

/-- Without a colon there are no bounds. -/
theorem boundsBehindColon {stops : Tokens → Bool} (hstops : ∀ ts, stops ts → endsBounds ts)
    (s : Progress) :
    (g.boundsBehindColon stops).Ensures s fun b t => Took s b.2 t ∧ (b.1 = [] → b.2 = []) := by
  refine .bind (ensures_markIf ":" s) fun colon t ⟨hcolon, hmark⟩ => ?_
  refine .ite (fun hnone => .pure ⟨?_, fun _ => rfl⟩) fun hsome => ?_
  · rwa [List.isEmpty_iff.1 hnone] at hcolon
  · refine .bind (ensures_list (hg.boundTokens false true) t) fun bounds u hbounds => ?_
    refine .pure ⟨(hcolon.append hbounds.1.1).boundedTokens fun hnone => ?_, ?_⟩
    · exact hmark.respells_emptyBounds (hstops _ (hbounds.2 hnone))
    · exact fun hnone => absurd (List.isEmpty_iff.2 hnone) hsome

/-! ## Types and constants -/

/-- What is read of a type as an item is written in this order, its conditions at their place. -/
def TookTypeItem (place : ConditionPlace) (s : Progress) (i : TypeItem) (t : Progress) : Prop :=
  (i.colon = [] → i.bounds = []) ∧ ∃ early late, i.conditions = early ++ late ∧
    (place = .before → late = []) ∧ (place = .behind → early = []) ∧
    Took s (i.visibility ++ i.start ++ i.bounds ++ early ++ i.definition ++ late ++
      TokenTree.mark ";") t

theorem typeItem (mayDefault : Bool) (place : ConditionPlace) (s : Progress) :
    (g.typeItem mayDefault place).Ensures s (TookTypeItem place s) := by
  unfold Grammar.typeItem
  refine .bind (writes_visibility s) fun visible t hvisible => ?_
  refine .bind_branch (fun _ => Writes.wordIf _ t) (fun _ => Writes.nothing t) ?_
  intro default u hdefault
  refine .bind_writes (hvisible.append hdefault)
    (.inOrder ⟨.word _, .nameTokens, hg.genericsTokens⟩) fun start v hstart => ?_
  refine .bind (hg.boundsBehindColon ?_ v) ?_
  · grind [endsBounds, startsAnyMark]
  rintro ⟨colon, bounds⟩ w ⟨hbounds, hnone⟩
  dsimp -zeta only
  extract_lets behind
  have hbehind (early : Option Tokens) (x : Progress)
      (h : Took w (early.getD []) x ∧ (place = .behind → early = none)) :
      (behind early).Ensures x (TookTypeItem place s) := by
    obtain ⟨hearly, hplace⟩ := h
    have hfront := (hstart.append hbounds).append hearly
    refine .bind_writes hfront hg.definitionIf fun definition y hdefinition => ?_
    refine .bind_branch (m := fun late z => Took y late z ∧ (place = .before → late = [])) ?_ ?_ ?_
    · exact fun _ => .pure ⟨.refl y, fun _ => rfl⟩
    · intro hlate
      refine (hg.conditions y).mono fun late z h => ⟨h, fun hbefore => absurd ?_ hlate⟩
      rw [hbefore]
      rfl
    · rintro late z ⟨hlate, hbefore⟩
      refine .bind (ensures_mark_unjoined (by decide) z) fun _ s' hstop => .pure ?_
      refine ⟨hnone, early.getD [], late, rfl, hbefore, fun h => by rw [hplace h]; rfl, ?_⟩
      simpa using (hdefinition.append hlate).append hstop
  have hnothing : Took w [] w := .refl w
  refine .ite (fun _ => ?_) fun hplace => .bind_ahead (.ite (fun _ => ?_) fun _ => ?_)
  · exact .bind (.pure ⟨hnothing, fun _ => rfl⟩) hbehind
  · refine .bind (hg.conditions w) fun conditions x hconditions => ?_
    exact .bind (.pure ⟨hconditions, fun h => absurd h hplace⟩) hbehind
  · exact .bind (.pure ⟨hnothing, fun _ => rfl⟩) hbehind

theorem typeAlias : g.typeAlias.MayWrite := by
  refine fun s => .bind (hg.typeItem false .before s) ?_
  rintro i t ⟨hnone, early, late, hconditions, hbefore, -, htook⟩
  refine .pure (.ite htook.moved fun hplain => ?_)
  obtain ⟨hcolon, -⟩ := Bool.and_eq_true_iff.1 hplain
  simpa [hconditions, hbefore, hnone (List.isEmpty_iff.1 hcolon)] using htook

theorem typeMember : g.typeMember.MayWrite := by
  refine fun s => .bind (hg.typeItem true .behind s) ?_
  rintro i t ⟨hnone, early, late, hconditions, -, hbehind, htook⟩
  refine .pure (.ite htook.moved fun hplain => ?_)
  obtain ⟨hcolon, -⟩ := Bool.and_eq_true_iff.1 hplain
  simpa [hconditions, hbehind, hnone (List.isEmpty_iff.1 hcolon)] using htook

theorem typeInTrait : g.typeInTrait.MayWrite := by
  refine fun s => .bind (hg.typeItem false .behind s) ?_
  rintro i t ⟨-, early, late, hconditions, -, hbehind, htook⟩
  refine .pure (.ite htook.moved fun hplain => ?_)
  simpa [hconditions, hbehind, List.isEmpty_iff.1 hplain] using htook

theorem foreignType : g.foreignType.MayWrite := by
  refine fun s => .bind (hg.typeItem false .either s) ?_
  rintro i t ⟨hnone, early, late, hconditions, -, -, htook⟩
  refine .pure (.ite htook.moved fun hplain => ?_)
  obtain ⟨hcolon, hdefinition⟩ := Bool.and_eq_true_iff.1 hplain
  simpa [hconditions, hnone (List.isEmpty_iff.1 hcolon), List.isEmpty_iff.1 hdefinition] using htook

theorem constantItem : g.constantItem.WritesAs (·.1) := by
  refine fun s => .bind (.writes (.inOrder ⟨.word _, writes_nameOrBlank⟩)) fun start t hstart => ?_
  refine .bind_ahead (.bind_writes hstart hg.genericsTokens fun generics u hgenerics => ?_)
  refine .bind_writes hgenerics (.inOrder ⟨.mark _, hg.typeTokens⟩) fun type v htype => ?_
  refine .bind_writes htype hg.valueIf fun value w hvalue => .bind_ahead ?_
  refine .bind_writes hvalue hg.conditions fun conditions x hconditions => ?_
  exact .bind_writes hconditions (.mark _) fun _ _ h => .pure h

theorem plainConstant : g.plainConstant.MayWrite := by
  refine fun s => .bind (hg.constantItem s) fun (ts, generic, valued) t h => .pure ?_
  exact .ite h.moved fun _ => h

theorem staticItem : g.staticItem.MayWrite := by
  refine fun s => .bind (.writes (.inOrder ⟨writes_visibility, .word _, .wordIf _, .nameTokens⟩)) ?_
  intro start t hstart
  refine .bind_ahead (.ite (fun _ => ?_) fun _ => ?_)
  · refine .bind_writes hstart (.inOrder ⟨.take 1, hg.exprTokens, .mark _⟩) fun _ _ h => ?_
    exact .pure h.moved.none
  · refine .bind_writes hstart (.inOrder ⟨.mark _, hg.typeTokens⟩) fun type u htype => .bind_ahead ?_
    refine .ite (fun _ => .bind_writes htype (.take 1) fun _ _ h => .pure h.moved.none) fun _ => ?_
    refine .bind_writes htype (.inOrder ⟨.mark _, hg.exprTokens, .mark _⟩) fun _ _ h => ?_
    exact .pure h.some

/-! ## Structures -/

theorem namedField {further : Reading Tokens} (hfurther : further.Writes) :
    (g.namedField further).Writes := by
  refine fun s => .bind (.writes (.inOrder ⟨hg.attributeTokens, writes_visibility⟩)) ?_
  intro start t hstart
  refine .bind_ahead (.ite (fun _ => ?_) fun _ => ?_)
  · refine .bind_writes hstart (.inOrder ⟨.take 1, .mark _⟩) fun this u hthis => .bind_ahead ?_
    have hfields : (asWritten (inOrder [take 1, further])).Writes :=
      .asWritten (Writes.moves (.inOrder ⟨.take 1, hfurther⟩))
    refine .ite (fun _ => ?_) fun _ => ?_
    · exact .append hthis hfields
    · exact .append hthis hg.typeTokens
  · refine .bind_writes hstart (.inOrder ⟨.nameTokens, .mark _, hg.typeTokens⟩) fun _ _ h => ?_
    exact .pure h

theorem namedFieldsFor (fuel : Nat) : (g.namedFieldsFor fuel).Writes := by
  induction fuel with
  | zero => exact .throw
  | succ fuel ih => exact .group .brace (.commaList (hg.namedField ih))

theorem namedFields : g.namedFields.Writes :=
  fun s => .bind_rest (hg.namedFieldsFor _ s)

theorem plainFields : g.plainFields.Writes := by
  unfold Grammar.plainFields
  exact .group .paren (.commaList (.inOrder ⟨hg.attributeTokens, writes_visibility, hg.typeTokens⟩))

theorem structBehind : g.structBehind.Writes := by
  refine fun s => .bind_ahead ?_
  refine .bind (hg.ensures_conditions s) fun conditions t ⟨hconditions, hnone⟩ => .bind_rest ?_
  refine .ite (fun hfields => ?_) fun _ => .ite (fun _ => ?_) fun _ => .ite (fun _ => ?_) fun _ =>
    .ite (fun _ => .expectedOneOf) fun _ => .expectedOneOf
  · obtain rfl := hnone (by simpa using (Bool.and_eq_true_iff.1 hfields).2)
    refine .bind_writes hconditions hg.plainFields fun fields u hfields => .bind_ahead ?_
    refine .bind_writes hfields hg.conditions fun conditions v hconditions => .bind_ahead ?_
    refine .ite (fun _ => ?_) fun _ => .ite (fun _ => .expected) fun _ => .expectedOneOf
    exact .append hconditions (.take 1)
  · exact .append hconditions hg.namedFields
  · exact .append hconditions (.take 1)

theorem structItem : g.structItem.Writes := by
  unfold Grammar.structItem
  exact .inOrder ⟨writes_visibility, .word _, .nameTokens, hg.genericsTokens, hg.structBehind⟩

theorem unionItem : g.unionItem.Writes := by
  unfold Grammar.unionItem
  exact .inOrder ⟨writes_visibility, .word _, .nameTokens, hg.genericsTokens, hg.conditions,
    hg.namedFields⟩

theorem variant {s t : Progress} {items : Tokens} (hitems : ReachesItem items)
    (h : TookVariants s items t) :
    g.variant.Ensures t fun ts u =>
      u.rest.isEmpty ∨ startsMark "," u.rest → TookVariants s (items ++ ts) u := by
  refine .bind (hg.ensures_attributeTokens t) fun attributes u ⟨hattributes, hrun, _⟩ => ?_
  refine .bind (ensures_visibility u) fun visible v ⟨hvisible, hform⟩ => ?_
  refine .bind (ensures_nameTokens v) fun this w ⟨hthis, hname, hw, _⟩ => .bind_rest ?_
  extract_lets behind
  -- where the list goes on or ends behind the variant, what follows the name shows that it is one
  have hbehind (fields : Tokens) (x : Progress)
      (hfields : Took w fields x ∧ (x = w ∨ startsGroup .paren w.rest ∨ startsGroup .brace w.rest)) :
      (behind fields).Ensures x fun ts y =>
        y.rest.isEmpty ∨ startsMark "," y.rest → TookVariants s (items ++ ts) y := by
    obtain ⟨hfields, hstarts⟩ := hfields
    refine .bind (hg.ensures_valueIf x) fun value y ⟨hvalue, hahead⟩ => .pure fun hends => ?_
    have hvariant : startsVariant v.rest := by
      rw [startsVariant, hname, ← hw]
      grind [startsAnyMark]
    have hstart := h.append hattributes
    have hbare := TookVariants.leaveVisibility hstart hitems hrun hvisible hform hvariant
    simpa using ((hbare.append hthis).append hfields).append hvalue
  refine .ite (fun hbrace => ?_) fun _ => .ite (fun hparen => ?_) fun _ => ?_
  · exact .bind ((hg.namedFields w).mono fun _ _ h => ⟨h, .inr (.inr hbrace)⟩) hbehind
  · exact .bind ((hg.plainFields w).mono fun _ _ h => ⟨h, .inr (.inl hparen)⟩) hbehind
  · exact .bind (.pure ⟨.refl w, .inl rfl⟩) hbehind

theorem variants (s : Progress) : (commaList g.variant).Ensures s (TookVariants s) := by
  have hitem (t : Progress) : g.variant.Ensures t fun ts u => ∀ s items, ReachesItem items →
      TookVariants s items t → u.rest.isEmpty ∨ startsMark "," u.rest →
        TookVariants s (items ++ ts) u :=
    fun ts u hts s items hitems h => hg.variant hitems h ts u hts
  refine .bind (.list (R := fun t found u => ∀ s items, ReachesItem items → TookVariants s items t →
    TookVariants s (items ++ listTokens found) u) hitem ?_ ?_ ?_ s) fun found t hfound => .pure ?_
  · intro t s items _ h
    simpa [listTokens] using h
  · intro t ts u hts hafter s items hitems h
    simpa [listTokens] using hts s items hitems h (.inl hafter)
  · intro t ts u found v hts hmark hfound s items hitems h
    obtain ⟨joint, more, hrest⟩ := exists_of_startsMark rfl hmark
    have hcomma : u.rest.take ",".length = [.punct ',' joint] := by rw [hrest]; rfl
    have hone := (hts s items hitems h (.inr hmark)).append (.of_take hcomma)
    have hall := hfound s _ (.of_comma _ joint) hone
    simpa [listTokens, hcomma] using hall
  · simpa using hfound.1 s [] (.inl rfl) (.refl s)

theorem enumItem : g.enumItem.Writes := by
  intro s
  unfold Grammar.enumItem
  simp only [inOrder_cons, inOrder_nil, Reading.group, bind_assoc, pure_bind]
  refine .bind (writes_visibility s) fun visible t hvisible => ?_
  refine .bind (ensures_word "enum" t) ?_
  rintro _ u ⟨rfl, henum⟩
  refine .bind (ensures_nameTokens u) ?_
  rintro _ v ⟨hname, -, -, name, rfl⟩
  refine .bind_writes (hvisible.append (henum.append hname)) hg.genericsTokens ?_
  intro generics w hgenerics
  refine .bind_writes hgenerics hg.conditions fun conditions x hconditions => ?_
  have hlead : Took s (visible ++ ([.ident "enum", .ident name] ++ (generics ++ conditions))) x := by
    simpa using hconditions
  refine .bind (ensures_inside_behind hg.variants x) fun variants y hvariants => .pure ?_
  simpa using hvariants ⟨name, generics ++ conditions, rfl⟩ hlead

/-! ## Traits -/

theorem functionInTrait : g.functionInTrait.Writes := by
  refine fun s => .bind (hg.signature false s) fun signature t hsignature => .bind_rest ?_
  refine .ite (fun _ => ?_) fun _ => .ite (fun _ => ?_) fun _ => .expectedOneOf
  · exact .append hsignature hg.attributedBlock
  · exact .append hsignature (.take 1)

theorem constantInTrait : g.constantInTrait.MayWrite := by
  refine fun s => .bind (hg.constantItem s) fun (ts, generic, valued) t h => .pure ?_
  cases generic with
  | true => exact h.moved.none
  | false => exact h.some

/-- A member that is marked in front stays as it stands. -/
theorem traitMemberBehind : g.traitMemberBehind.MayWrite := by
  intro s
  unfold Grammar.traitMemberBehind
  refine .bind (writes_visibility s) fun visible t hvisible => ?_
  refine .bind_writes hvisible (.wordIf _) fun default u hdefault => ?_
  extract_lets marked behind
  have hbehind (this : Option Tokens) (v : Progress) (h : TookIf u this v) :
      (behind this).Ensures v (TookIf s) := by
    refine .pure ?_
    split
    · exact (hdefault.moved.trans h.1).none
    · next hplain =>
      have hnone : visible = [] ∧ default = [] := by simpa [marked] using hplain
      rw [hnone.1, hnone.2] at hdefault
      exact .behind hdefault h
  refine .bind_rest (.ite (fun _ => ?_) fun _ => .ite (fun _ => ?_) fun _ =>
    .ite (fun _ => ?_) fun _ => .ite (fun _ => ?_) fun _ => .bind .expectedOneOf hbehind)
  · exact .bind (hg.functionInTrait u) fun _ _ h => .bind (.pure h.some) hbehind
  · refine .ite (fun _ => .bind (hg.constantInTrait u) hbehind) fun _ =>
      .ite (fun _ => ?_) fun _ => ?_
    · exact .bind (hg.functionInTrait u) fun _ _ h => .bind (.pure h.some) hbehind
    · exact .bind_any fun _ _ => .bind .expectedOneOf hbehind
  · exact .bind (hg.typeInTrait u) hbehind
  · exact .bind (writes_memberCall u) fun _ _ h => .bind (.pure h.some) hbehind

theorem traitMember : g.traitMember.Writes := by
  refine .orAsWritten fun s => .bind (hg.attributeTokens s) fun attributes t hattributes => ?_
  exact .bind (hg.traitMemberBehind t) fun _ _ h => .pure (.map hattributes h)

theorem traitBehind : g.traitBehind.Writes := by
  have hbounds : (do return (← g.boundsBehindColon endsTraits).2 : Reading Tokens).Writes := by
    refine fun s => .bind (hg.boundsBehindColon ?_ s) fun _ _ h => .pure h.1
    grind [endsBounds, endsTraits]
  exact .inOrder ⟨hbounds, hg.conditions, hg.body hg.traitMember⟩

theorem traitItem : g.traitItem.Writes := by
  have hstart : (inOrder [visibility, wordIf "unsafe", wordIf "auto", word "trait", nameTokens,
      g.genericsTokens]).Writes :=
    .inOrder ⟨writes_visibility, .wordIf _, .wordIf _, .word _, .nameTokens, hg.genericsTokens⟩
  exact fun s => .bind (hstart s) fun _ _ h => .append h hg.traitBehind

theorem traitOrAlias : g.traitOrAlias.Writes := by
  intro s
  refine .bind (.writes (.inOrder ⟨writes_visibility, .word _, .nameTokens, hg.genericsTokens⟩)) ?_
  intro start t hstart
  refine .bind_rest (.ite (fun _ => ?_) fun _ => .ite (fun _ => ?_) fun _ => .expectedOneOf)
  · exact .append hstart hg.traitBehind
  · refine .bind_writes hstart (.take 1) fun mark u hmark => ?_
    refine .bind_took hmark (.listTokens (hg.boundTokens false true)) fun bounds v hbounds => ?_
    exact .append hbounds (.inOrder ⟨hg.conditions, .mark _⟩)

/-! ## Implementations -/

theorem functionMember : g.functionMember.MayWrite := by
  refine fun s => .bind (.writes (.inOrder ⟨writes_visibility, .wordIf _⟩)) fun start t hstart => ?_
  refine .bind_took hstart (hg.signature false) fun signature u hsignature => .bind_ahead ?_
  refine .ite (fun _ => ?_) fun _ => ?_
  · exact .bind_writes hsignature (.take 1) fun _ _ h => .pure h.moved.none
  · exact .bind_writes hsignature hg.attributedBlock fun _ _ h => .pure h.some

omit hg in
theorem writesAs_defaultedBehind : defaultedBehind.WritesAs (·.1) := by
  refine fun s => .bind (writes_visibility s) fun visible t hvisible => .bind_rest ?_
  refine .ite (fun _ => ?_) fun _ => .pure hvisible
  exact .bind_writes hvisible (.take 1) fun _ _ h => .pure h

theorem implMemberBehind : g.implMemberBehind.MayWrite := by
  refine fun s => .bind_preview fun (start, marked, ts) t ht => ?_
  refine .ite (fun _ => hg.functionMember s) fun _ => .ite (fun _ => ?_) fun _ =>
    .ite (fun _ => hg.typeMember s) fun _ => .ite (fun _ => writes_memberCall.some s) fun _ => ?_
  · -- what was previewed is what is read
    have hstart : Took s start t := writesAs_defaultedBehind s _ t ht
    exact .bind_of_eq ht (.bind (hg.plainConstant t) fun _ _ h => .pure (.map hstart h))
  · exact .bind_any fun _ _ => .expectedOneOf

theorem implMember : g.implMember.Writes := by
  refine .orAsWritten fun s => .bind (hg.attributeTokens s) fun attributes t hattributes => ?_
  exact .bind (hg.implMemberBehind t) fun _ _ h => .pure (.map hattributes h)

theorem implSubject : g.implSubject.MayWrite := by
  intro s
  unfold Grammar.implSubject
  refine .bind (WritesAs.withWritten (w := fun a => a.1 ++ a.2.1.tokens) (fun s => ?_) s) ?_
  · refine .bind (Writes.optionally (.take 1) s) fun polarity t hpolarity => ?_
    exact .bind (hg.type true t) fun first u hfirst => .pure (hpolarity.append hfirst.1)
  rintro ⟨⟨polarity, first, isTrait⟩, written⟩ t ⟨htook, hwritten⟩
  refine .bind_ahead (.ite (fun _ => ?_) fun _ => ?_)
  · refine .bind_writes htook (.inOrder ⟨.take 1, hg.typeTokens⟩) fun behind u h => ?_
    exact .pure (.ite h.moved fun _ => h)
  · refine .pure (Took.some ?_)
    split
    · next hnone =>
      rw [List.isEmpty_iff.1 hnone] at htook
      exact htook
    · exact hwritten

theorem implItem : g.implItem.MayWrite := by
  intro s
  unfold Grammar.implItem
  refine .bind (writes_visibility s) fun visible t hvisible => ?_
  refine .bind_writes hvisible (.inOrder ⟨.wordIf _, .wordIf _, .word _⟩) fun start u hstart => ?_
  refine .bind_ahead (.bind_branch (fun _ => hg.genericsTokens u) (fun _ => Writes.nothing u) ?_)
  intro generics v hgenerics
  refine .bind (m := fun _ w => w = v) (.bind_rest (.pure rfl)) ?_
  rintro isConstant v rfl
  extract_lets behind
  -- where something is taken here, the whole stays as it stands
  have hbehind {w : Progress} (hmoved : Moved v w) (hplain : ¬ isConstant → w = v) :
      (behind ()).Ensures w (TookIf s) := by
    refine .bind (hg.implSubject w) fun subject x hsubject => ?_
    refine .bind (.writes (.inOrder ⟨hg.conditions, hg.body hg.implMember⟩)) fun ts y hts => .pure ?_
    have hmoves : Moved s y :=
      (hstart.append hgenerics).moved.trans (hmoved.trans (hsubject.1.trans hts.moved))
    cases subject with
    | none => exact hmoves.none
    | some subject =>
      refine .ite hmoves fun hwritten => ?_
      rw [Bool.and_eq_true, List.isEmpty_iff, Bool.not_eq_true'] at hwritten
      obtain ⟨rfl, hconstant⟩ := hwritten
      obtain rfl := hplain (Bool.not_eq_true _ ▸ hconstant)
      exact ((hstart.append hgenerics).append (hsubject.2 subject rfl)).append hts
  refine .ite (fun hconstant => ?_) fun _ => hbehind (.refl v) fun _ => rfl
  have hmark : (inOrder [markIf "?", word "const"]).Writes := .inOrder ⟨.markIf _, .word _⟩
  exact .bind (hmark.moves v) fun _ w hw => hbehind hw (absurd hconstant)

/-! ## Foreign interfaces -/

theorem foreignFunction : g.foreignFunction.MayWrite := by
  refine fun s => .bind (writes_visibility s) fun visible t hvisible => .bind_ahead ?_
  refine .bind_took hvisible (hg.signature true) fun signature u hsignature => .bind_ahead ?_
  refine .ite (fun _ => ?_) fun _ => ?_
  · exact .bind_writes hsignature hg.attributedBlock fun _ _ h => .pure h.moved.none
  · refine .bind_writes hsignature (.mark _) fun stop v hstop => .pure ?_
    split
    · exact hstop.moved.none
    · exact hstop.some

theorem foreignStatic : g.foreignStatic.MayWrite := by
  refine fun s => .bind (writes_visibility s) fun visible t hvisible => ?_
  refine .bind_writes hvisible (.optionally (.take 1)) fun marks u hmarks => ?_
  refine .bind_writes hmarks
    (.inOrder ⟨.word _, .wordIf _, .nameTokens, .mark _, hg.typeTokens⟩) fun start v hstart => ?_
  refine .bind_writes hstart hg.valueIf fun value w hvalue => ?_
  refine .bind_writes hvalue (.mark _) fun stop x hstop => .pure (.ite hstop.moved fun hplain => ?_)
  obtain ⟨hnone, hnoValue⟩ := Bool.and_eq_true_iff.1 hplain
  rw [List.isEmpty_iff.1 hnone, List.isEmpty_iff.1 hnoValue] at hstop
  simpa using hstop

theorem foreignMemberBehind : g.foreignMemberBehind.MayWrite := by
  refine fun s => .bind_preview fun visible t ht => ?_
  refine .ite (fun _ => hg.foreignFunction s) fun _ => .ite (fun _ => hg.foreignStatic s) fun _ =>
    .ite (fun _ => hg.foreignType s) fun _ => .ite (fun _ => writes_memberCall.some s) fun _ => ?_
  exact .bind_any fun _ _ => .expectedOneOf

theorem foreignMember : g.foreignMember.Writes := by
  refine .orAsWritten fun s => .bind (hg.attributeTokens s) fun attributes t hattributes => ?_
  exact .bind (hg.foreignMemberBehind t) fun _ _ h => .pure (.map hattributes h)

theorem foreignItem : g.foreignItem.Writes := by
  unfold Grammar.foreignItem
  exact .inOrder ⟨.wordIf _, .word _, .optionally (.take 1), hg.body hg.foreignMember⟩

/-! ## Modules, and what is defined by its expansion -/

theorem moduleItem : g.moduleItem.Writes := by
  intro s
  refine .bind (.writes (.inOrder ⟨writes_visibility, .wordIf _, .word _, .takeIf .nameTokens⟩)) ?_
  refine fun start t hstart => .bind_rest (.ite (fun _ => ?_) fun _ => .ite (fun _ => ?_) fun _ => ?_)
  · exact .append hstart (.take 1)
  · exact .append hstart (hg.body hg.item)
  · exact .expectedOneOf

omit hg in
theorem moves_expandingItem : expandingItem.Moves := by
  have hstart : (inOrder [visibility, word "macro", nameTokens]).Writes :=
    .inOrder ⟨writes_visibility, .word _, .nameTokens⟩
  refine fun s => .bind (hstart s) fun _ t ht => ?_
  refine .bind_writes ht (.optionally (.take 1)) fun called u hcalled => .bind_ahead ?_
  refine .ite (fun _ => ?_) fun _ => .ite (fun _ => .expectedOneOf) fun _ => .expected
  exact .bind_writes hcalled (.take 1) fun _ _ h => .pure h.moved

/-! ## All items -/

theorem functionItem : g.functionItem.MayWrite := by
  refine fun s => .bind (writes_visibility s) fun visible t hvisible => ?_
  refine .bind_took hvisible (hg.signature false) fun signature u hsignature => .bind_ahead ?_
  refine .ite (fun _ => ?_) fun _ => ?_
  · exact .bind_writes hsignature (.take 1) fun _ _ h => .pure h.moved.none
  · exact .bind_writes hsignature hg.attributedBlock fun _ _ h => .pure h.some

theorem externItem (ts : Tokens) : (g.externItem ts).Writes := by
  refine fun s => .ite (fun _ => writes_libraryItem s) fun _ =>
    .ite (fun _ => hg.foreignItem s) fun _ => ?_
  refine .bind_any fun _ _ => .bind_any fun _ _ => .ite (fun _ => ?_) fun _ => .expectedOneOf
  exact .bind_any fun _ _ => .expected

theorem unsafeItem (ts : Tokens) : (g.unsafeItem ts).MayWrite := by
  refine fun s => .ite (fun _ => hg.traitItem.some s) fun _ => .ite (fun _ => hg.implItem s) fun _ =>
    .ite (fun _ => hg.foreignItem.some s) fun _ => .ite (fun _ => hg.moduleItem.some s) fun _ => ?_
  exact .bind_any fun _ _ => .bind_any fun _ _ => .expectedOneOf

theorem itemBehind : g.itemBehind.MayWrite := by
  refine fun s => .bind_preview fun visible t ht => ?_
  refine .ite (fun _ => hg.functionItem s) fun _ => ?_
  split
  · exact (hg.externItem _).some s
  · exact writes_importItem.some s
  · exact hg.staticItem s
  · -- what was previewed is what is read
    have hvisible : Took s visible t := writes_visibility s _ t ht
    exact .bind_of_eq ht (.bind (hg.plainConstant t) fun _ _ h => .pure (.map hvisible h))
  · exact hg.unsafeItem _ s
  · exact hg.moduleItem.some s
  · exact hg.typeAlias s
  · exact hg.structItem.some s
  · exact hg.enumItem.some s
  · exact hg.traitOrAlias.some s
  · exact hg.implItem s
  · exact .bind (moves_expandingItem s) fun _ _ h => .pure h.none
  · refine .ite (fun _ => hg.unionItem.some s) fun _ => .ite (fun _ => hg.traitItem.some s) fun _ =>
      .ite (fun _ => hg.implItem s) fun _ => .ite (fun _ => writes_itemCall.some s) fun _ => ?_
    exact .bind_any fun _ _ => .expectedOneOf

theorem readItem : g.readItem.Writes := by
  refine .orAsWritten fun s => .bind (hg.attributeTokens s) fun attributes t hattributes => ?_
  exact .bind (hg.itemBehind t) fun _ _ h => .pure (.map hattributes h)

end Faithful

end Grammar

end ScreenRoutes
