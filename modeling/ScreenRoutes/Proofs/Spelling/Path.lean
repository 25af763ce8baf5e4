import ScreenRoutes.Grammar.Path
import ScreenRoutes.Proofs.Spelling.Attribute

/-!
# Paths

Generic arguments come in their order, and what is empty in front of the arguments of a called path is
left out; the names of a path and all else in it stay.
-/

namespace ScreenRoutes

open Reading Tokens

/-! ## Lists of trees -/

theorem Respells.flatMap {α : Type} {f h : α → Tokens} {l : List α} (behind : Tokens)
    (hall : ∀ x ∈ l, ∀ behind, Respells behind (f x) (h x)) :
    Respells behind (l.flatMap f) (l.flatMap h) := by
  induction l with
  | nil => exact .refl _ _
  | cons x l ih =>
    rw [List.forall_mem_cons] at hall
    exact .append (hall.1 _) (ih hall.2)

namespace Reading

/-! ## Items between angle brackets -/

/-- Whether an item was taken as it is written, which starts with a lifetime if it is one. -/
def TookAngled (s : Progress) (i : AngledKind × Tokens) (t : Progress) : Prop :=
  Took s i.2 t ∧ (i.1 = .lifetime → StartsLifetime i.2)

theorem TookAngled.plain {s t : Progress} {kind : AngledKind} {ts : Tokens}
    (hkind : kind ≠ .lifetime) (h : Took s ts t) : TookAngled s (kind, ts) t :=
  ⟨h, fun h' => absurd h' hkind⟩

theorem ensures_angledLifetime (s : Progress) :
    (do return (.lifetime, ← lifetime) : Reading (AngledKind × Tokens)).Ensures s (TookAngled s) :=
  .bind (ensures_lifetime s) fun _ _ h => .pure ⟨h.1, fun _ => .of_start h.2⟩

theorem WritesAs.angledItems {item : Reading (AngledKind × Tokens)}
    (hitem : ∀ s, item.Ensures s (TookAngled s)) :
    (Grammar.angledItems item).WritesAs angledTokens := by
  intro s
  have hwrites : item.WritesAs (·.2) := fun s => (hitem s).mono fun _ _ h => h.1
  have hlifetimes (s : Progress) : item.Ensures s fun i _ => i.1 = .lifetime → StartsLifetime i.2 :=
    (hitem s).mono fun _ _ h => h.2
  refine .bind (ensures_mark_unjoined (by decide) s) fun _ t hopen => ?_
  refine .bind ((ensures_list hwrites t).and (.list_all hlifetimes t)) ?_
  rintro items u ⟨⟨⟨htook, hmarks, hfront⟩, -⟩, hall⟩
  refine .bind (ensures_mark_unjoined (by decide) u) fun _ v hclose => .pure ?_
  refine Took.respell ?_ (.of (.angled _ (List.forall_mem_map.2 hall) ?_))
  · refine (hopen.append ?_).append hclose
    refine htook.respell ?_
    rw [List.flatMap_map]
    refine .flatMap _ fun x hx behind => ?_
    exact .append (.refl _ _) ((hmarks x hx).respells (by decide) behind)
  · rw [← List.map_dropLast]
    refine List.forall_mem_map.2 fun x hx => ?_
    simpa using (hfront x hx).ne_nil (by decide)

end Reading

namespace Grammar

namespace Faithful

variable {g : Grammar} (hg : g.Faithful)

include hg

theorem constant : g.constant.Writes :=
  fun s => .bind_rest <| .ite (fun _ => Writes.literal s) fun _ =>
    .ite (fun _ => Writes.nameTokens s) fun _ => .ite (fun _ => hg.attributedBlock s) fun _ => .throw

theorem genericArgument (s : Progress) : g.genericArgument.Ensures s (TookAngled s) := by
  unfold Grammar.genericArgument
  refine .bind_rest (.ite (fun _ => ensures_angledLifetime s) fun _ => .ite (fun _ => ?_) fun _ => ?_)
  · exact .bind (hg.constant s) fun _ _ h => .pure (.plain (by decide) h)
  · refine .bind (hg.type true s) fun type t htype => .bind_rest ?_
    refine .ite (fun _ => ?_) fun _ => .ite (fun _ => ?_) fun _ => .pure (.plain (by decide) htype.1)
    · refine .bind_writes htype.1 (.take 1) fun equals u hequals => .bind_ahead ?_
      refine .bind_branch (fun _ => hg.constant u) (fun _ => hg.typeTokens u) fun value v hvalue => ?_
      exact .pure (.plain (by decide) (hequals.append hvalue))
    · refine .bind_writes htype.1 (.take 1) fun colon u hcolon => ?_
      refine .bind_took hcolon (.listTokens (hg.boundTokens _ _)) fun bounds v hbounds => ?_
      exact .pure (.plain (by decide) hbounds)

theorem angledArguments : g.angledArguments.WritesAs (·.tokens) := by
  intro s
  refine .bind (ensures_markIf_unjoined (by decide) s) fun colons t hcolons => ?_
  exact .bind_took hcolons (.angledItems hg.genericArgument) fun items u hitems => .pure hitems

/-! ## Segments -/

theorem pathSegment (inExpression : Bool) : (g.pathSegment inExpression).WritesAs (·.tokens) := by
  intro s
  refine .bind_rest ?_
  split
  · next w more hrest =>
    have hword : Took s [.ident w] { s with rest := s.rest.drop 1 } := .of_take (by rw [hrest]; rfl)
    refine .ite (fun _ => .bind_take (.pure hword)) fun _ => ?_
    extract_lets behind
    have hbehind (name : String) (t : Progress) (hname : Took s [.ident name] t) :
        (behind name).Ensures t fun p u => Took s p.tokens u := by
      refine .bind_rest (.ite (fun _ => ?_) fun _ => .pure hname)
      exact .bind_took hname hg.angledArguments fun arguments u harguments => .pure harguments
    refine .ite (fun _ => .bind_take ?_) fun _ => .bind (writesAs_name s) hbehind
    exact .bind (.pure hword) hbehind
  · exact .bind (writesAs_name s) fun _ _ h => .pure h

/-- The trees of segments with `::` between them. -/
def segmentTokens (front : List PathSegment) (last : PathSegment) : Tokens :=
  front.flatMap (fun s => s.tokens ++ segmentMark) ++ last.tokens

omit hg in
/-- The `::` may be put behind the segments or in front of them. -/
theorem segmentTokens_dropLast (first last : PathSegment) (more : List PathSegment)
    (h : more.getLast? = some last) :
    segmentTokens (first :: more.dropLast) last =
      first.tokens ++ more.flatMap fun s => segmentMark ++ s.tokens := by
  obtain ⟨front, rfl⟩ := List.getLast?_eq_some_iff.1 h
  rw [List.dropLast_concat]
  induction front generalizing first with
  | nil => simp [segmentTokens]
  | cons second front ih =>
    have ih := ih second List.getLast?_concat
    simp only [segmentTokens, List.flatMap_cons, List.cons_append, List.append_assoc] at ih ⊢
    rw [ih]

theorem pathSegments (inExpression : Bool) {goesOn : Tokens → Bool}
    (hgoesOn : ∀ ts, goesOn ts → startsMark "::" ts) :
    (g.pathSegments inExpression goesOn).WritesAs fun p => segmentTokens p.1 p.2 := by
  have hsegment := hg.pathSegment inExpression
  have hmore : (repeatWhile goesOn (do
      let _ ← take 2
      g.pathSegment inExpression)).WritesAs (·.flatMap fun s => segmentMark ++ s.tokens) := by
    refine .repeatWhile fun s hcolons => .bind_take ?_
    exact (hsegment _).mono fun _ _ => (Took.mark (by decide) (hgoesOn _ hcolons)).append
  intro s
  unfold Grammar.pathSegments
  refine .bind (hsegment s) fun first t hfirst => .bind_took hfirst hmore fun more u h => ?_
  split
  · next hnone =>
    obtain rfl := List.getLast?_eq_none_iff.1 hnone
    exact .pure (by simpa [segmentTokens] using h)
  · next last hlast =>
    rw [← segmentTokens_dropLast first last more hlast] at h
    exact .pure h

theorem path (inExpression : Bool) (s : Progress) :
    (g.path inExpression).Ensures s fun p t => Took s p.tokens t ∧ p.qualifier = [] := by
  unfold Grammar.path
  refine .bind (ensures_markIf_unjoined (by decide) s) fun root t hroot => ?_
  refine .bind_took hroot (hg.pathSegments inExpression ?_) fun segments u hsegments => .pure ⟨?_, rfl⟩
  · intro ts h
    exact (Bool.and_eq_true_iff.1 h).1
  · rw [segmentTokens, ← List.append_assoc] at hsegments
    exact hsegments

theorem qualifier : g.qualifier.Writes := by
  unfold Grammar.qualifier
  refine .inOrder ⟨.mark _, hg.typeTokens, .optionally (.inOrder ⟨.take 1, fun s => ?_⟩), .mark _⟩
  exact .bind (hg.path false s) fun _ _ h => .pure h.1

/-- Only a `<` starts a qualified path. -/
theorem ensures_qualifiedPath (inExpression : Bool) (s : Progress) :
    (g.qualifiedPath inExpression).Ensures s fun p t =>
      Took s p.tokens t ∧ (¬ startsMark "<" s.rest → p.qualifier = []) := by
  refine .bind_ahead (.ite (fun hqualified => ?_) fun _ => ?_)
  · refine .bind (hg.qualifier s) fun qualifier t hqualifier => ?_
    refine .bind (ensures_mark_unjoined (by decide) t) fun _ u hcolons => ?_
    refine .bind_took (hqualifier.append hcolons) (hg.pathSegments inExpression fun _ => id) ?_
    intro segments v hsegments
    rw [segmentTokens, ← List.append_assoc] at hsegments
    exact .pure ⟨hsegments, fun h => absurd hqualified h⟩
  · exact (hg.path inExpression s).mono fun _ _ h => ⟨h.1, fun _ => h.2⟩

theorem qualifiedPath (inExpression : Bool) : (g.qualifiedPath inExpression).WritesAs (·.tokens) :=
  fun s => (hg.ensures_qualifiedPath inExpression s).mono fun _ _ h => h.1

/-! ## Paths that are called -/

theorem output (plus : Bool) : (g.output plus).Writes := by
  unfold Grammar.output
  refine .optionally (.inOrder ⟨.take 2, fun s => ?_⟩)
  exact .bind (hg.type plus s) fun _ _ h => .pure h.1

omit hg in
/-- Where a path is called, arguments of its last segment that are empty are left out. -/
theorem respells_emptyArguments {arguments : SegmentArguments} {behind : Tokens}
    (hempty : arguments.isEmpty) (hcall : startsCall behind) :
    Respells behind arguments.tokens [] := by
  cases arguments with
  | none => exact .refl _ _
  | angled turbofish items =>
    obtain rfl : items = [] := List.isEmpty_iff.1 hempty
    refine .of ?_
    have hnone : Respelling behind ((if turbofish then segmentMark else []) ++ TokenTree.mark "<" ++
        TokenTree.mark ">") [] :=
      .emptyArguments hcall
    simpa [SegmentArguments.tokens, angledTokens, commaTokens] using hnone
  | called => cases hempty

/-- What is empty in front of arguments is left out. -/
theorem called {s t : Progress} {p : Path} (h : Took s p.tokens t) :
    (g.called p).Ensures t fun p' u => Took s p'.tokens u ∧ p'.qualifier = p.qualifier := by
  refine .bind_rest (.ite (fun hcalled => ?_) fun _ => .pure ⟨h, rfl⟩)
  obtain ⟨hempty, hcall⟩ := Bool.and_eq_true_iff.1 hcalled
  have hname : Took s ({ p with last := ⟨p.last.name, .none⟩ } : Path).tokens t := by
    refine h.respell (.append (.refl _ _) ?_)
    exact .append_left [.ident p.last.name] (respells_emptyArguments hempty hcall)
  refine .bind (ensures_markIf_unjoined (by decide) t) fun colons u hcolons => ?_
  refine .bind (ensures_group .paren (.commaList hg.typeTokens) u) ?_
  rintro inputs v ⟨hinputs, hgroup, -⟩
  have hcolons' : Took t [] u := by
    refine hcolons.respell ?_
    split
    · exact .of (.calledColons hgroup)
    · exact .refl _ _
  refine .bind_writes ((hname.append hcolons').append hinputs) (hg.output false) ?_
  intro result w hresult
  refine .pure ⟨?_, rfl⟩
  simpa [Path.tokens, PathSegment.tokens, SegmentArguments.tokens] using hresult

end Faithful

end Grammar

end ScreenRoutes
