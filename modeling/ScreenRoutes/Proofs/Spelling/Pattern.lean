import ScreenRoutes.Grammar.Pattern
import ScreenRoutes.Proofs.Spelling.Type

/-!
# Patterns

A pattern stays but for the mark of a range and for the digits of an index.
-/

namespace ScreenRoutes

open Reading Tokens

theorem TookPattern.plain {s t : Progress} {ts : Tokens} (h : Took s ts t) :
    TookPattern s (Grammar.plainPattern ts) t :=
  ⟨h, nofun⟩

namespace Reading

/-! ## Members -/

theorem ensures_indexTokens (text : String) (s : Progress) :
    (indexTokens text).Ensures s fun ts t => t = s ∧
      ∃ n, integerParts? text = some (n, []) ∧ ts = [.literal (toString n)] := by
  unfold indexTokens
  split
  · exact .throw
  · next n suffix hparts =>
    refine .ite (fun _ => .throw) fun hsuffix => .ite (fun _ => .throw) fun _ => .pure ?_
    obtain rfl : suffix = [] := by simpa using hsuffix
    exact ⟨rfl, n, hparts, rfl⟩

/-- Whether a name was taken as it stands, or an index that is written as a decimal number. -/
def TookMember (s : Progress) (ts : Tokens) (t : Progress) : Prop :=
  startsName s.rest ∧ Took s ts t ∨
    ¬ startsName s.rest ∧ ∃ text n, integerParts? text = some (n, []) ∧
      Took s [.literal text] t ∧ ts = [.literal (toString n)]

theorem ensures_member (s : Progress) : member.Ensures s (TookMember s) := by
  refine .bind_rest ?_
  split
  · next w more hrest =>
    refine .ite (fun hplain => ?_) fun _ => .expected
    refine (Writes.take 1 s).mono fun _ _ h => .inl ⟨?_, h⟩
    rw [hrest]
    exact hplain
  · next text more hrest =>
    refine .ite (fun _ => .bind_take ?_) fun _ => .expected
    refine (ensures_indexTokens text _).mono ?_
    rintro _ t ⟨rfl, n, hparts, rfl⟩
    refine .inr ⟨?_, text, n, hparts, .of_take (by rw [hrest]; rfl), rfl⟩
    rw [hrest]
    exact Bool.false_ne_true
  · exact .expected

/-- In front of its value, a field is written as it is taken. -/
theorem TookMember.field {s t : Progress} {ts : Tokens} (h : TookMember s ts t)
    (hvalue : startsName s.rest ∨ startsMark ":" t.rest) : Took s ts t := by
  obtain ⟨-, h⟩ | ⟨hname, text, n, hparts, h, rfl⟩ := h
  · exact h
  · exact h.respell (.of (.field hparts (hvalue.resolve_left hname)))

/-- Behind a point, a member is written as it is taken. -/
theorem TookMember.index {s t u : Progress} {front ts : Tokens} {joint : Bool}
    (h : TookMember t ts u) (hpoint : Took s (front ++ [.punct '.' joint]) t) :
    Took s (front ++ [.punct '.' joint] ++ ts) u := by
  obtain ⟨-, h⟩ | ⟨-, text, n, hparts, h, rfl⟩ := h
  · exact hpoint.append h
  · refine (hpoint.append h).respell ?_
    rw [List.append_assoc, List.append_assoc]
    exact .append_left front (.of (.index hparts))

/-! ## Ranges -/

theorem writesAs_rangeMark : rangeMark.WritesAs (·.1) := by
  refine fun s => .bind_rest (.ite (fun _ => ?_) fun _ => .ite (fun _ => .expected) fun _ =>
    .ite (fun _ => ?_) fun _ => .expectedOneOf)
  · exact .bind (Writes.take 3 s) fun _ _ h => .pure h
  · exact .bind (Writes.take 2 s) fun _ _ h => .pure h

/-- The mark is written as it is taken, provided that a range with an end has one. -/
theorem ensures_patternRangeMark (s : Progress) :
    patternRangeMark.Ensures s fun m t =>
      (m.2 → ¬ Grammar.endsOpenRange t.rest) → Took s m.1 t := by
  refine .bind_ahead (.ite (fun hdots => .bind_take (.pure fun hend => ?_)) fun _ => ?_)
  · exact (Took.take 3 s).respell (.of (.rangeMark hdots (hend rfl)))
  · exact (writesAs_rangeMark s).mono fun _ _ h _ => h

end Reading

namespace Grammar

theorem writesAs_boundName : boundName.WritesAs fun w => [.ident w] := by
  refine fun s => .bind_ahead (.ite (fun hself => ?_) fun _ => writesAs_name s)
  exact .bind (ensures_take_word hself) fun _ _ h => .pure h.2

namespace Faithful

variable {g : Grammar} (hg : g.Faithful)

include hg

theorem alternatives : g.alternatives.WritesAs (·.tokens) := by
  intro s
  unfold Grammar.alternatives
  refine .bind (Writes.markIf "|" s) fun start t hstart => ?_
  refine .bind (hg.pattern t) fun first u hfirst => .bind_ahead ?_
  have htook := hstart.append hfirst.1
  refine .ite (fun hsingle => .pure ?_) fun _ => ?_
  · rw [id, List.isEmpty_iff.1 (Bool.and_eq_true_iff.1 hsingle).1] at htook
    exact htook
  · have hmore : (inOrder [take 1, g.patternTokens]).Writes := .inOrder ⟨.take 1, hg.patternTokens⟩
    exact .bind_took htook (.flatten hmore) fun _ _ h => .pure h

theorem alternativesTokens : g.alternativesTokens.Writes :=
  fun s => .bind (hg.alternatives s) fun _ _ h => .pure h

/-! ## Ranges -/

theorem constantBlock : g.constantBlock.Writes := by
  unfold Grammar.constantBlock
  exact .inOrder ⟨.word _, hg.attributedBlock⟩

theorem patternEnd (s : Progress) : g.patternEnd.Ensures s (TookPattern s) := by
  refine .bind_rest (.ite (fun _ => ?_) fun _ => .ite (fun _ => ?_) fun _ =>
    .ite (fun _ => ?_) fun _ => .expectedOneOf)
  · exact .bind (Writes.literal s) fun _ _ h => .pure (.plain h)
  · exact .bind (hg.qualifiedPath true s) fun _ _ h => .pure (.plain h)
  · exact .bind (hg.constantBlock s) fun _ _ h => .pure (.plain h)

theorem rangeBehind {start : Tokens} {s t : Progress} (h : Took s start t) :
    (g.rangeBehind start).Ensures t (TookPattern s) := by
  unfold Grammar.rangeBehind
  refine .bind (ensures_patternRangeMark t) fun (mark, included) u hmark => .bind_ahead ?_
  refine .ite (fun hgoes => ?_) fun _ => .ite (fun _ => .expected) fun hopen => .pure ⟨?_, ?_⟩
  · have hrange := h.append (hmark fun _ => by simpa using hgoes)
    refine .bind (hg.patternEnd u) fun stop v hstop => .pure ⟨hrange.append hstop.1, ?_⟩
    dsimp only
    split <;> nofun
  · exact h.append (hmark fun hincluded => absurd hincluded hopen)
  · dsimp only
    split <;> nofun

theorem literalPattern (s : Progress) : g.literalPattern.Ensures s (TookPattern s) := by
  refine .bind (hg.patternEnd s) fun start t hstart => .bind_ahead ?_
  exact .ite (fun _ => hg.rangeBehind hstart.1) fun _ => .pure hstart

/-! ## Names and paths -/

theorem binding (s : Progress) : g.binding.Ensures s (TookPattern s) := by
  unfold Grammar.binding
  refine .bind (.writes (.inOrder ⟨.wordIf _, .wordIf _⟩)) fun start t hstart => ?_
  refine .bind_took hstart writesAs_boundName fun name u hname => ?_
  refine .bind_writes hname (.optionally (.inOrder ⟨.take 1, hg.patternTokens⟩)) ?_
  intro inside v hinside
  rw [List.append_assoc] at hinside
  exact .pure ⟨hinside, nofun⟩

theorem fieldPattern : g.fieldPattern.Writes := by
  refine fun s => .bind (.writes (.inOrder ⟨.wordIf _, .wordIf _, .wordIf _⟩)) ?_
  intro marks t hmarks
  refine .ite (fun hnone => .bind_ahead ?_) fun _ => ?_
  · rw [List.isEmpty_iff.1 hnone] at hmarks
    refine .bind (ensures_member t) fun this u hthis => .bind_ahead (.ite (fun _ => ?_) fun hnone => ?_)
    · have hinside : (inOrder [mark ":", g.alternativesTokens]).Writes :=
        .inOrder ⟨.mark _, hg.alternativesTokens⟩
      refine .bind ((hinside u).and (ensures_startsMark_inOrder _ _ u)) fun _ _ ⟨h, hmark⟩ => .pure ?_
      exact (hmarks.append (hthis.field (.inr hmark))).append h
    · have hname : startsName t.rest := by
        simp only [Bool.or_eq_true, not_or, Bool.not_eq_true', Bool.not_eq_false] at hnone
        exact hnone.1
      exact .pure (hmarks.append (hthis.field (.inl hname)))
  · exact .append hmarks .nameTokens

theorem fieldPatternsFor (fuel : Nat) : (g.fieldPatternsFor fuel).Writes := by
  induction fuel with
  | zero => exact .nothing
  | succ fuel ih =>
    intro s
    unfold Grammar.fieldPatternsFor
    refine .bind_ahead (.ite (fun _ => .pure (.refl s)) fun _ => ?_)
    refine .bind (hg.attributeTokens s) fun attributes t hattributes => .bind_ahead ?_
    refine .ite (fun _ => ?_) fun _ => ?_
    · exact .append hattributes (.take 2)
    · refine .bind_writes hattributes hg.fieldPattern fun this u hthis => .bind_ahead ?_
      refine .ite (fun _ => .pure hthis) fun _ => ?_
      refine .bind_writes hthis (.mark _) fun comma v hcomma => ?_
      exact .append hcomma ih

theorem fieldPatterns : g.fieldPatterns.Writes := by
  unfold Grammar.fieldPatterns
  exact .group .brace fun s => .bind_rest (hg.fieldPatternsFor _ s)

theorem pathPattern (s : Progress) : g.pathPattern.Ensures s (TookPattern s) := by
  refine .bind (hg.qualifiedPath true s) fun p t hp => .bind_rest ?_
  refine .ite (fun _ => ?_) fun _ => .ite (fun _ => ?_) fun _ => .ite (fun _ => ?_) fun _ =>
    .ite (fun _ => hg.rangeBehind hp) fun _ => .pure (.plain hp)
  · exact .bind (ensures_invocation t) fun _ _ h => .pure (.plain (hp.append h.1))
  · exact .bind_writes hp hg.fieldPatterns fun _ _ h => .pure (.plain h)
  · exact .bind_writes hp (.group .paren (.commaList hg.alternativesTokens)) fun _ _ h =>
      .pure (.plain h)

/-! ## All patterns -/

theorem parenPattern (s : Progress) : g.parenPattern.Ensures s (TookPattern s) :=
  .bind (Writes.group .paren (.commaList hg.alternativesTokens) s) fun _ _ h => .pure (.plain h)

theorem slicePattern (s : Progress) : g.slicePattern.Ensures s (TookPattern s) := by
  unfold Grammar.slicePattern
  refine .bind (.writes (.group .bracket (.commaList fun s => ?_))) fun _ _ h => .pure (.plain h)
  exact .bind (hg.alternatives s) fun _ _ h => .ite (fun _ => .throw) fun _ => .pure h

theorem readPattern (s : Progress) : g.readPattern.Ensures s (TookPattern s) := by
  refine .bind_rest ?_
  refine .ite (fun _ => hg.pathPattern s) fun _ => .ite (fun _ => ?_) fun _ =>
    .ite (fun hbox => ?_) fun _ => .ite (fun _ => hg.literalPattern s) fun _ =>
    .ite (fun _ => hg.binding s) fun _ => .ite (fun _ => ?_) fun _ =>
    .ite (fun _ => hg.parenPattern s) fun _ => .ite (fun _ => hg.slicePattern s) fun _ =>
    .ite (fun _ => hg.rangeBehind (.refl s)) fun _ => .expectedOneOf
  · exact .bind (Writes.take 1 s) fun _ _ h => .pure (.plain h)
  · refine .bind (.writes (.asWritten (Writes.moves (.inOrder ⟨.take 1, hg.patternTokens⟩)))) ?_
    exact fun _ _ h => .pure ⟨h, fun _ => .of_word rfl hbox⟩
  · refine .bind (.writes (.inOrder ⟨.take 1, .wordIf _, hg.patternTokens⟩)) ?_
    exact fun _ _ h => .pure (.plain h)

end Faithful

end Grammar

end ScreenRoutes
