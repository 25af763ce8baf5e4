import ScreenRoutes.Proofs.Spelling.Function

/-!
# Attributes that give a default

Whether an attribute of a parameter gives it a default shows in its trees: the path inside is the
one word, so no `::` follows it.
-/

namespace ScreenRoutes

open Reading Tokens

/-- Whether the trees inside an attribute start with a path that is the word of a default. -/
def startsDefault : Tokens → Bool
  | .ident w :: behind => defaultAttributes.contains w && !startsMark "::" behind
  | _ => false

/-- Whether the attribute stands between brackets behind `#`, and gives a default just where its
trees say so. -/
def Attribute.ShowsDefault (a : Attribute) : Prop :=
  ∃ joint inside, a.tokens = [.punct '#' joint, .group .bracket inside] ∧
    a.isDefault = startsDefault inside

def FunctionParam.ShowsDefaults (p : FunctionParam) : Prop :=
  ∀ a ∈ p.attributes, a.ShowsDefault

/-! ## Paths -/

/-- Trees of a path: one word, or `::` comes first or behind the first word. -/
inductive IsPathText : Tokens → Prop
  | word (w : String) : IsPathText [.ident w]
  | rooted (joint : Bool) (more : Tokens) :
    IsPathText (.punct ':' true :: .punct ':' joint :: more)
  | nested (w : String) (joint : Bool) (more : Tokens) :
    IsPathText (.ident w :: .punct ':' true :: .punct ':' joint :: more)

/-- The two characters of `::` are joined. -/
theorem Reading.IsMark.eq_colons {ts : Tokens} (h : IsMark "::" ts) :
    ∃ joint, ts = [.punct ':' true, .punct ':' joint] := by
  obtain ⟨more, hmark, rfl⟩ := h
  obtain ⟨joint, more, rfl⟩ := exists_of_startsMark_pair rfl hmark
  exact ⟨joint, rfl⟩

/-- The first segment of a path is a word, and `::` follows it if there are more. -/
theorem ensures_segments (s : Progress) :
    (list "::" (!startsPathWord ·) (!startsMark "::" ·) (take 1)).Ensures s fun segments _ =>
      segments = [] ∨ ∃ w, segments = [([.ident w], [])] ∨
        ∃ colons more, IsMark "::" colons ∧ segments = ([.ident w], colons) :: more := by
  refine .bind_rest (.ite (fun _ => .pure (.inl rfl)) fun hword => .bind_take ?_)
  have hfirst : ∃ w, s.rest.take 1 = [.ident w] := by
    match s.rest, hword with
    | .ident w :: more, _ => exact ⟨w, rfl⟩
    | [], h | .literal _ :: _, h | .punct .. :: _, h | .group .. :: _, h => exact absurd rfl h
  obtain ⟨w, hw⟩ := hfirst
  rw [hw]
  refine .bind_rest (.ite (fun _ => .pure (.inr ⟨w, .inl rfl⟩)) fun _ => ?_)
  refine .bind (ensures_mark "::" _) fun colons t ⟨_, hcolons⟩ => .bind_any fun more _ => ?_
  exact .pure (.inr ⟨w, .inr ⟨colons, more, hcolons, rfl⟩⟩)

theorem ensures_isPathText (s : Progress) : plainPath.Ensures s fun ts _ => IsPathText ts := by
  refine .bind (ensures_markIf "::" s) fun root t ⟨_, hroot⟩ => ?_
  have hpath {ts : Tokens} (h : IsPathText ts) : IsPathText (root ++ ts) := by
    rcases hroot with rfl | hroot
    · exact h
    · obtain ⟨joint, rfl⟩ := hroot.eq_colons
      exact .rooted joint ts
  refine .bind (ensures_segments t) fun segments u hsegments => ?_
  split
  · refine .bind (m := fun ts _ => IsPathText ts) ?_ fun _ _ h => .pure (hpath h)
    exact .bind_any fun w _ => .pure (.word w)
  · next hlast =>
    refine .pure (hpath ?_)
    rcases hsegments with rfl | ⟨w, rfl | ⟨colons, more, hcolons, rfl⟩⟩
    · cases hlast
    · exact .word w
    · obtain ⟨joint, rfl⟩ := hcolons.eq_colons
      exact .nested w joint _
  · exact .expected

/-- The word that the path is, if it is one. -/
theorem IsPathText.startsDefault_append {path behind : Tokens} (h : IsPathText path)
    (hbehind : startsMark "::" behind = false) :
    startsDefault (path ++ behind) = (match path with
      | [.ident w] => some w
      | _ => none).any defaultAttributes.contains := by
  cases h with
  | word w => simp [startsDefault, hbehind]
  | rooted joint more => rfl
  | nested w joint more => simp [startsDefault, startsMark, startsChars]

/-! ## Attributes -/

theorem Grammar.ensures_attributeInside_default (g : Grammar) (s : Progress) :
    g.attributeInside.Ensures s fun a _ => a.isDefault = startsDefault a.tokens := by
  refine .bind_ahead (.bind_branch (m := fun ts _ => IsPathText ts) (fun hunsafe => ?_)
    (fun _ => ensures_isPathText s) ?_)
  · exact (ensures_take_word hunsafe).mono fun ts t h => h.1 ▸ .word _
  intro path t hpath
  -- neither arguments nor a value nor the end start with `::`
  refine .bind_rest ?_
  split
  · next d arguments more hrest =>
    refine .bind_take (.pure ?_)
    rw [hrest]
    exact (hpath.startsDefault_append rfl).symm
  · refine .ite (fun hequals => .bind_take (.bind_any fun value _ => .pure ?_)) fun _ => .pure ?_
    · obtain ⟨joint, more, hrest⟩ := exists_of_startsMark rfl hequals
      rw [hrest, List.append_assoc]
      exact (hpath.startsDefault_append rfl).symm
    · have hends : startsDefault (path ++ []) = _ := hpath.startsDefault_append rfl
      rw [List.append_nil] at hends
      exact hends.symm

/-- Every attribute shows whether it gives a default. -/
theorem Grammar.ensures_attributes_showDefault (g : Grammar) (s : Progress) :
    g.attributes.Ensures s fun found _ => ∀ a ∈ found, a.ShowsDefault := by
  refine .repeatWhile_all (fun s hstarts => ?_) s
  obtain ⟨joint, more, hrest⟩ := exists_of_startsMark rfl hstarts
  refine .bind_take ?_
  refine .bind (.inside .bracket g.ensures_attributeInside_default) fun a t ha => .pure ?_
  rw [hrest]
  exact ⟨joint, a.tokens, rfl, ha⟩

/-! ## Parameters -/

theorem Grammar.ensures_paramsFor_showDefaults (g : Grammar) (fuel : Nat) {seen : List FunctionParam}
    (hseen : ∀ p ∈ seen, p.ShowsDefaults) (s : Progress) :
    (g.paramsFor fuel seen).Ensures s fun r _ => ∀ p ∈ r.1, p.ShowsDefaults := by
  have hreverse {seen : List FunctionParam} (h : ∀ p ∈ seen, p.ShowsDefaults) :
      ∀ p ∈ seen.reverse, p.ShowsDefaults :=
    fun p hp => h p (List.mem_reverse.1 hp)
  induction fuel generalizing seen s with
  | zero => exact .pure (hreverse hseen)
  | succ fuel ih =>
    unfold Grammar.paramsFor
    refine .bind_ahead (.ite (fun _ => .pure (hreverse hseen)) fun _ => ?_)
    refine .bind (g.ensures_attributes_showDefault s) fun attributes t hattributes => .bind_ahead ?_
    refine .ite (fun _ => .bind_any fun _ _ => .pure (hreverse hseen)) fun _ => ?_
    refine .bind_any fun form u => ?_
    cases form with
    | error name => exact .bind_any fun _ _ => .pure (hreverse hseen)
    | ok form =>
      have hthis (comma : Bool) : ∀ p ∈ ⟨attributes, form, comma⟩ :: seen, p.ShowsDefaults :=
        List.forall_mem_cons.2 ⟨hattributes, hseen⟩
      refine .ite (fun _ => .throw) fun _ => .ite (fun _ => .throw) fun _ => .bind_ahead ?_
      refine .ite (fun _ => .pure (hreverse (hthis false))) fun _ => ?_
      exact .bind_any fun _ v => ih (hthis true) v

theorem Grammar.ensures_params_showDefaults (g : Grammar) (s : Progress) :
    g.params.Ensures s fun r _ => ∀ p ∈ r.1, p.ShowsDefaults := by
  have hinside (s : Progress) : (do g.paramsFor ((← rest).length + 1) []).Ensures s fun r _ =>
      ∀ p ∈ r.1, p.ShowsDefaults := by
    refine .bind_rest (g.ensures_paramsFor_showDefaults _ ?_ s)
    simp
  exact .inside .paren hinside

theorem Grammar.ensures_signature_showDefaults (g : Grammar) (safe : Bool) (s : Progress) :
    (g.signature safe).Ensures s fun f _ => ∀ p ∈ f.params, p.ShowsDefaults := by
  unfold Grammar.signature
  refine .bind_any fun const t => .bind_any fun async u => .bind_ahead ?_
  refine .bind_branch (m := fun _ _ => True) (fun _ _ _ _ => trivial) (fun _ _ _ _ => trivial) ?_
  intro safety v _
  refine .bind_any fun convention w => .bind_any fun _ x => .bind_any fun called y => ?_
  refine .bind_any fun generics z => ?_
  refine .bind (g.ensures_params_showDefaults z) fun params t' hparams => ?_
  exact .bind_any fun output u' => .bind_any fun conditions v' => .pure hparams

theorem Grammar.ensures_functionBehind_showDefaults (g : Grammar) (s : Progress) :
    g.functionBehind.Ensures s fun f _ => ∀ p ∈ f.signature.params, p.ShowsDefaults := by
  refine .bind_any fun attributes t => .bind_any fun visible u => ?_
  refine .bind (g.ensures_signature_showDefaults false u) fun signature v hsignature => ?_
  exact .bind_any fun body w => .pure hsignature

/-- Whether an attribute of a parameter gives it a default shows in the attribute's trees. -/
theorem FunctionItem.showsDefaults_of_read {item : Tokens} {f : FunctionItem}
    (h : FunctionItem.read item = .ok f) : ∀ p ∈ f.signature.params, p.ShowsDefaults := by
  obtain ⟨t, ht⟩ := whole_eq_ok h
  exact Grammar.ensures_functionBehind_showDefaults _ _ f t ht

end ScreenRoutes
