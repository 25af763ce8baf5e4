import Mathlib.Data.List.Basic
import ScreenRoutes.Proofs.Spelling.Basic

/-!
# Readings that keep what they take

A reading writes what it takes if it yields these trees again, up to re-spellings (`Writes`). What is
made of such readings writes what it takes too, since the trees that remain behind one part are those
that the next one takes.

Trees that are left over in a group are written by nobody. They show in the progress, and the reading
of the whole fails for them, so nothing is said of such progress.
-/

namespace ScreenRoutes

open Tokens

/-! ## What is taken -/

/-- Whether trees were taken between two places, and none were left over in a group. -/
def Moved (s t : Progress) : Prop :=
  t.leftover = none → s.leftover = none ∧ t.rest <:+ s.rest

/-- Whether what was taken between two places is spelled as the given trees. -/
def Took (s : Progress) (written : Tokens) (t : Progress) : Prop :=
  t.leftover = none →
    s.leftover = none ∧ ∃ taken, s.rest = taken ++ t.rest ∧ Respells t.rest taken written

/-- Whether trees were taken that are spelled as the given ones, if there are any given. -/
def TookIf (s : Progress) (written : Option Tokens) (t : Progress) : Prop :=
  Moved s t ∧ ∀ ts, written = some ts → Took s ts t

theorem Moved.refl (s : Progress) : Moved s s :=
  fun h => ⟨h, List.suffix_rfl⟩

theorem Moved.trans {s t u : Progress} (h : Moved s t) (hmore : Moved t u) : Moved s u := by
  intro hu
  obtain ⟨ht, hsuffix⟩ := hmore hu
  obtain ⟨hs, hsuffix'⟩ := h ht
  exact ⟨hs, hsuffix.trans hsuffix'⟩

namespace Took

variable {s t u : Progress} {ts us : Tokens}

theorem refl (s : Progress) : Took s [] s :=
  fun h => ⟨h, [], rfl, .refl _ _⟩

/-- What was taken one after the other is spelled as the trees one after the other. -/
theorem append (h : Took s ts t) (hmore : Took t us u) : Took s (ts ++ us) u := by
  intro hu
  obtain ⟨ht, taken', ht', hspells'⟩ := hmore hu
  obtain ⟨hs, taken, hs', hspells⟩ := h ht
  refine ⟨hs, taken ++ taken', by rw [hs', ht', List.append_assoc], .append ?_ hspells'⟩
  rw [← ht']
  exact hspells

/-- What was taken may be spelled in another way. -/
theorem respell (h : Took s ts t) (hspells : Respells t.rest ts us) : Took s us t := by
  intro ht
  obtain ⟨hs, taken, hs', htaken⟩ := h ht
  exact ⟨hs, taken, hs', htaken.trans hspells⟩

theorem moved (h : Took s ts t) : Moved s t := by
  intro ht
  obtain ⟨hs, taken, hs', -⟩ := h ht
  exact ⟨hs, taken, hs'.symm⟩

/-- Trees from the front are taken as they stand. -/
theorem take (n : Nat) (s : Progress) : Took s (s.rest.take n) { s with rest := s.rest.drop n } :=
  fun h => ⟨h, s.rest.take n, (List.take_append_drop n s.rest).symm, .refl _ _⟩

theorem of_take {n : Nat} (h : s.rest.take n = ts) : Took s ts { s with rest := s.rest.drop n } :=
  h ▸ take n s

/-- A mark that comes next may be written so that it is not joined to what follows. -/
theorem mark {m : String} {s : Progress} (hm : m ∈ unjoinedMarks) (h : startsMark m s.rest) :
    Took s (TokenTree.mark m) { s with rest := s.rest.drop m.length } :=
  (take m.length s).respell (.of (.joint hm h))

/-- What is left out where the given trees stand behind it. -/
theorem leftOut (h : Took s ts t) (hspells : Respells t.rest ts []) : Took s [] t :=
  h.respell hspells

theorem some (h : Took s ts t) : TookIf s (Option.some ts) t := by
  refine ⟨h.moved, ?_⟩
  rintro ts' ⟨⟩
  exact h

end Took

theorem Moved.none {s t : Progress} (h : Moved s t) : TookIf s none t :=
  ⟨h, fun _ h => nomatch h⟩

/-- The trees at the front that no longer remain are those that were taken. -/
theorem Moved.took_taken {s t : Progress} (h : Moved s t) :
    Took s (Reading.taken s.rest t.rest) t := by
  intro ht
  obtain ⟨hs, taken, hs'⟩ := h ht
  refine ⟨hs, taken, hs'.symm, ?_⟩
  have htaken : Reading.taken s.rest t.rest = taken := by
    rw [Reading.taken, ← hs', List.length_append, Nat.add_sub_cancel, List.take_left]
  rw [htaken]
  exact .refl _ _

/-- What may be written where nothing else was taken before. -/
theorem TookIf.behind {s t u : Progress} {written : Option Tokens} (h : Took s [] t)
    (hmore : TookIf t written u) : TookIf s written u :=
  ⟨h.moved.trans hmore.1, fun ts hts => h.append (hmore.2 ts hts)⟩

theorem TookIf.ite {s t : Progress} {ts : Tokens} {c : Prop} [Decidable c] (hmoved : Moved s t)
    (h : c → Took s ts t) : TookIf s (if c then some ts else none) t := by
  split
  · next hc => exact (h hc).some
  · exact hmoved.none

theorem TookIf.map {s t u : Progress} {ts : Tokens} {written : Option Tokens} (h : Took s ts t)
    (hmore : TookIf t written u) : TookIf s (written.map (ts ++ ·)) u := by
  cases written with
  | none => exact (h.moved.trans hmore.1).none
  | some us => exact (h.append (hmore.2 us rfl)).some

namespace Reading

variable {α β : Type} {s t u : Progress}

/-! ## Readings -/

/-- Whether whatever the reading yields is written as what it takes. -/
def WritesAs (p : Reading α) (written : α → Tokens) : Prop :=
  ∀ s, p.Ensures s fun a t => Took s (written a) t

def Writes (p : Reading Tokens) : Prop :=
  p.WritesAs id

/-- Whether whatever the reading yields is written as what it takes, or not written at all. -/
def MayWriteAs (p : Reading α) (written : α → Option Tokens) : Prop :=
  ∀ s, p.Ensures s fun a t => TookIf s (written a) t

/-- Whether the reading writes what it takes, or nothing. -/
def MayWrite (p : Reading (Option Tokens)) : Prop :=
  p.MayWriteAs id

/-- Whether the reading takes trees from the front. -/
def Moves (p : Reading α) : Prop :=
  ∀ s, p.Ensures s fun _ t => Moved s t

theorem WritesAs.moves {p : Reading α} {written : α → Tokens} (h : p.WritesAs written) : p.Moves :=
  fun s => (h s).mono fun _ _ => Took.moved

theorem Writes.moves {p : Reading Tokens} (h : p.Writes) : p.Moves :=
  WritesAs.moves h

theorem WritesAs.mayWriteAs {p : Reading α} {written : α → Tokens} (h : p.WritesAs written) :
    p.MayWriteAs (some ∘ written) :=
  fun s => (h s).mono fun _ _ => Took.some

theorem MayWriteAs.moves {p : Reading α} {written : α → Option Tokens} (h : p.MayWriteAs written) :
    p.Moves :=
  fun s => (h s).mono fun _ _ hp => hp.1

namespace Ensures

variable {p : Reading α} {q : α → Reading β} {r : β → Progress → Prop} {written : α → Tokens}
  {ts : Tokens}

theorem writes {p : Reading Tokens} (hp : p.Writes) : p.Ensures s (Took s) :=
  hp s

/-- Going on with what a reading takes behind trees that were taken. -/
theorem bind_took (h : Took s ts t) (hp : p.WritesAs written)
    (hq : ∀ a u, Took s (ts ++ written a) u → (q a).Ensures u r) : (p >>= q).Ensures t r :=
  bind (hp t) fun a u ha => hq a u (h.append ha)

/-- Going on with what a reading of trees takes behind trees that were taken. -/
theorem bind_writes {p : Reading Tokens} {q : Tokens → Reading β} (h : Took s ts t) (hp : p.Writes)
    (hq : ∀ us u, Took s (ts ++ us) u → (q us).Ensures u r) : (p >>= q).Ensures t r :=
  bind_took h hp hq

/-- Writing what a reading takes behind trees that were taken. -/
theorem append {p : Reading Tokens} (h : Took s ts t) (hp : p.Writes) :
    Ensures (do return ts ++ (← p)) t (Took s) :=
  bind_writes h hp fun _ _ h => pure h

end Ensures

/-! ## Single trees -/

theorem ensures_take (n : Nat) (s : Progress) :
    (take n).Ensures s fun ts t => ts = s.rest.take n ∧ Took s ts t := by
  intro ts t h
  cases h
  exact ⟨rfl, .take n s⟩

theorem ensures_take_word {w : String} {s : Progress} (h : startsWord w s.rest) :
    (take 1).Ensures s fun ts t => ts = [.ident w] ∧ Took s [.ident w] t := by
  refine (ensures_take 1 s).mono ?_
  rintro _ t ⟨rfl, htook⟩
  rw [take_one_of_startsWord h] at htook ⊢
  exact ⟨rfl, htook⟩

theorem ensures_word (w : String) (s : Progress) :
    (word w).Ensures s fun ts t => ts = [.ident w] ∧ Took s [.ident w] t :=
  .bind_ahead (.ite ensures_take_word fun _ => .expected)

namespace Writes

theorem take (n : Nat) : (Reading.take n).Writes :=
  fun s => (ensures_take n s).mono fun _ _ h => h.2

/-- What comes next is taken as it stands, or the reading fails. -/
theorem takeIf {property : Tokens → Bool} {n : Nat} {p : Reading Tokens} (hp : p.Writes) :
    (do if ← ahead property then Reading.take n else p : Reading Tokens).Writes :=
  fun s => .bind_ahead (.ite (fun _ => take n s) fun _ => hp s)

theorem expected {what : String} : (Reading.expected what : Reading Tokens).Writes :=
  fun _ => .expected

theorem throw {fault : TokenFault} : (MonadExcept.throw fault : Reading Tokens).Writes :=
  fun _ => .throw

theorem expectedOneOf {whats : List String} :
    (Reading.expectedOneOf whats : Reading Tokens).Writes :=
  fun _ => .expectedOneOf

theorem nothing : (pure [] : Reading Tokens).Writes :=
  fun s => .pure (.refl s)

theorem word (w : String) : (Reading.word w).Writes :=
  takeIf expected

theorem wordIf (w : String) : (Reading.wordIf w).Writes :=
  takeIf nothing

theorem mark (m : String) : (Reading.mark m).Writes :=
  takeIf throw

theorem markIf (m : String) : (Reading.markIf m).Writes :=
  takeIf nothing

theorem lifetime : Reading.lifetime.Writes :=
  takeIf expected

theorem lifetimeIf : Reading.lifetimeIf.Writes :=
  takeIf nothing

theorem literal : Reading.literal.Writes :=
  fun s => .bind_rest (.ite (fun _ => take 2 s) fun _ => .ite (fun _ => take 1 s) fun _ => .expected)

theorem anyGroup : Reading.anyGroup.Writes := by
  intro s
  refine .bind_rest ?_
  split
  · exact take 1 s
  · exact .expected

end Writes

theorem ensures_lifetime (s : Progress) :
    lifetime.Ensures s fun ts t => Took s ts t ∧ startsLifetime ts := by
  refine .bind_ahead (.ite (fun hlifetime => ?_) fun _ => .expected)
  refine (ensures_take 2 s).mono ?_
  rintro _ t ⟨rfl, htook⟩
  refine ⟨htook, ?_⟩
  unfold startsLifetime at hlifetime
  split at hlifetime
  · next hrest => rw [hrest]; rfl
  · cases hlifetime

theorem ensures_name (s : Progress) :
    name.Ensures s fun w t => Took s [.ident w] t ∧ startsName s.rest ∧ t.rest = s.rest.tail := by
  refine .bind_rest ?_
  split
  · next w more hrest =>
    refine .ite (fun hplain => .bind_take (.pure ?_)) fun _ => .throw
    refine ⟨.of_take (by rw [hrest]; rfl), ?_, (List.drop_one ..)⟩
    rw [hrest]
    exact hplain
  · exact .expected

theorem writesAs_name : name.WritesAs fun w => [.ident w] :=
  fun s => (ensures_name s).mono fun _ _ h => h.1

theorem ensures_nameTokens (s : Progress) :
    nameTokens.Ensures s fun ts t =>
      Took s ts t ∧ startsName s.rest ∧ t.rest = s.rest.tail ∧ ∃ w, ts = [.ident w] :=
  .bind (ensures_name s) fun w _ h => .pure ⟨h.1, h.2.1, h.2.2, w, rfl⟩

theorem Writes.nameTokens : Reading.nameTokens.Writes :=
  fun s => (ensures_nameTokens s).mono fun _ _ h => h.1

/-! ## Marks -/

/-- The characters of a mark, joined in any way. -/
def IsMark (m : String) (ts : Tokens) : Prop :=
  ∃ more, startsMark m more ∧ ts = more.take m.length

def OptionalMark (m : String) (ts : Tokens) : Prop :=
  ts = [] ∨ IsMark m ts

theorem IsMark.ne_nil {m : String} {ts : Tokens} (h : IsMark m ts) (hm : m ≠ "") : ts ≠ [] := by
  obtain ⟨more, hmark, rfl⟩ := h
  have hm' : m.toList ≠ [] := fun hnil => hm (String.toList_inj.1 hnil)
  obtain ⟨c, cs, hcs⟩ := List.exists_cons_of_ne_nil hm'
  rw [startsMark, hcs] at hmark
  obtain ⟨joint, more, rfl, -⟩ := exists_of_startsChars hmark
  rw [← String.length_toList, hcs]
  exact List.cons_ne_nil _ _

theorem IsMark.respells {m : String} {ts : Tokens} (h : IsMark m ts) (hm : m ∈ unjoinedMarks)
    (behind : Tokens) : Respells behind ts (TokenTree.mark m) := by
  obtain ⟨more, hmark, rfl⟩ := h
  exact .of (.joint hm hmark)

theorem OptionalMark.respells {m : String} {ts : Tokens} (h : OptionalMark m ts)
    (hm : m ∈ unjoinedMarks) (behind : Tokens) :
    Respells behind ts (if !ts.isEmpty then TokenTree.mark m else []) := by
  split
  · next hne =>
    rcases h with rfl | hmark
    · cases hne
    · exact hmark.respells hm behind
  · next hempty =>
    simp only [Bool.not_eq_true', Bool.not_eq_false, List.isEmpty_iff] at hempty
    rw [hempty]
    exact .refl _ _

theorem ensures_mark (m : String) (s : Progress) :
    (mark m).Ensures s fun ts t => Took s ts t ∧ IsMark m ts :=
  .bind_ahead (.ite (fun hmark => .bind_take (.pure ⟨.take _ s, _, hmark, rfl⟩)) fun _ => .throw)

theorem ensures_startsMark (m : String) (s : Progress) :
    (mark m).Ensures s fun _ _ => startsMark m s.rest :=
  .bind_ahead (.ite (fun hmark => .bind_take (.pure hmark)) fun _ => .throw)

theorem ensures_markIf (m : String) (s : Progress) :
    (markIf m).Ensures s fun ts t => Took s ts t ∧ OptionalMark m ts := by
  refine .bind_ahead (.ite (fun hmark => ?_) fun _ => .pure ⟨.refl s, .inl rfl⟩)
  exact .bind_take (.pure ⟨.take _ s, .inr ⟨_, hmark, rfl⟩⟩)

/-- The mark that must come next, not joined to what follows. -/
theorem ensures_mark_unjoined {m : String} (hm : m ∈ unjoinedMarks) (s : Progress) :
    (mark m).Ensures s fun _ t => Took s (TokenTree.mark m) t :=
  (ensures_mark m s).mono fun _ _ h => h.1.respell (h.2.respells hm _)

/-- A mark if it comes next, not joined to what follows. -/
theorem ensures_markIf_unjoined {m : String} (hm : m ∈ unjoinedMarks) (s : Progress) :
    (markIf m).Ensures s fun ts t => Took s (if !ts.isEmpty then TokenTree.mark m else []) t :=
  (ensures_markIf m s).mono fun _ _ h => h.1.respell (h.2.respells hm _)

/-! ## Groups -/

theorem Moves.inside {p : Reading α} (d : Delimiter) (hp : p.Moves) : (inside d p).Moves := by
  intro s
  refine (ensures_inside d p s).mono ?_
  rintro a t ⟨content, u, hrest, hu, hleftover⟩ ht
  rw [hleftover] at ht
  refine ⟨(hp _ a u hu (orElse_unread_eq_none.1 ht).1).1, ?_⟩
  rw [hrest]
  exact List.suffix_cons _ _

/-- A group of which the inside is written as it is taken is so as a whole. -/
theorem MayWriteAs.inside {p : Reading α} {written : α → Option Tokens} (d : Delimiter)
    (hp : p.MayWriteAs written) :
    (inside d p).MayWriteAs fun a => (written a).map fun ts => [.group d ts] := by
  intro s
  refine ((hp.moves.inside d s).and (ensures_inside d p s)).mono ?_
  rintro a t ⟨hmoved, content, u, hrest, hu, hleftover⟩
  refine ⟨hmoved, fun ts hts ht => ⟨(hmoved ht).1, [.group d content], hrest, ?_⟩⟩
  obtain ⟨us, hus, rfl⟩ := Option.map_eq_some_iff.1 hts
  rw [hleftover] at ht
  obtain ⟨hu', hend⟩ := orElse_unread_eq_none.1 ht
  obtain ⟨-, taken, htaken, hspells⟩ := (hp _ a u hu).2 us hus hu'
  rw [List.isEmpty_iff.1 hend] at htaken hspells
  rw [List.append_nil] at htaken
  rw [show content = taken from htaken]
  exact .group d hspells

theorem WritesAs.inside {p : Reading α} {written : α → Tokens} (d : Delimiter)
    (hp : p.WritesAs written) : (inside d p).WritesAs fun a => [.group d (written a)] :=
  fun s => (MayWriteAs.inside d hp.mayWriteAs s).mono fun _ _ h => h.2 _ rfl

theorem ensures_group {p : Reading Tokens} (d : Delimiter) (hp : p.Writes) (s : Progress) :
    (group d p).Ensures s fun ts t =>
      Took s ts t ∧ startsGroup d s.rest ∧ ∃ inside, ts = [.group d inside] := by
  refine .bind ((WritesAs.inside d hp s).and (ensures_inside d p s)) ?_
  rintro ts t ⟨htook, content, -, hrest, -⟩
  exact .pure ⟨htook, by rw [hrest]; exact beq_self_eq_true d, _, rfl⟩

theorem Writes.group {p : Reading Tokens} (d : Delimiter) (hp : p.Writes) :
    (Reading.group d p).Writes :=
  fun s => (ensures_group d hp s).mono fun _ _ h => h.1

/-! ## Sequence and choice -/

theorem inOrder_cons (p : Reading Tokens) (ps : List (Reading Tokens)) :
    inOrder (p :: ps) = do return (← p) ++ (← inOrder ps) := by
  simp [inOrder, List.mapM_cons]

theorem inOrder_nil : inOrder [] = pure [] :=
  rfl

theorem Writes.inOrder {ps : List (Reading Tokens)} (h : ps.Forall Writes) :
    (Reading.inOrder ps).Writes := by
  induction ps with
  | nil => exact nothing
  | cons p ps ih =>
    rw [List.forall_cons] at h
    intro s
    rw [inOrder_cons]
    refine .bind (h.1 s) fun ts t hts => .bind (ih h.2 t) fun us u hus => .pure ?_
    exact hts.append hus

theorem ensures_startsMark_inOrder (m : String) (ps : List (Reading Tokens)) (s : Progress) :
    (inOrder (Reading.mark m :: ps)).Ensures s fun _ _ => startsMark m s.rest := by
  rw [inOrder_cons]
  exact .bind (ensures_startsMark m s) fun _ _ h => .bind_any fun _ _ => .pure h

theorem ensures_optionally {property : Tokens → Bool} {p : Reading Tokens} (hp : p.Writes)
    (s : Progress) :
    (optionally property p).Ensures s fun ts t => Took s ts t ∧ (property s.rest ∨ t = s) := by
  refine .bind_ahead (.ite (fun hahead => ?_) fun _ => .pure ⟨.refl s, .inr rfl⟩)
  exact (hp s).mono fun _ _ h => ⟨h, .inl hahead⟩

theorem Writes.optionally {property : Tokens → Bool} {p : Reading Tokens} (hp : p.Writes) :
    (Reading.optionally property p).Writes :=
  fun s => (ensures_optionally hp s).mono fun _ _ h => h.1

/-! ## Repetition -/

section Repetition

variable {item : Reading α} {written : α → Tokens} {going : Tokens → Bool}

theorem WritesAs.repeatFor
    (hitem : ∀ s, going s.rest → item.Ensures s fun a t => Took s (written a) t) (fuel : Nat) :
    (repeatFor fuel going item).WritesAs (·.flatMap written) := by
  induction fuel with
  | zero => exact fun s => .pure (.refl s)
  | succ fuel ih =>
    intro s
    rw [Reading.repeatFor]
    refine .bind_rest (.ite (fun hgoing => ?_) fun _ => .pure (.refl s))
    refine .bind (hitem s hgoing) fun a t ha => .bind (ih t) fun more u hmore => .pure ?_
    exact ha.append hmore

theorem WritesAs.repeatWhile
    (hitem : ∀ s, going s.rest → item.Ensures s fun a t => Took s (written a) t) :
    (repeatWhile going item).WritesAs (·.flatMap written) :=
  fun s => .bind_rest (.ite (fun _ => WritesAs.repeatFor hitem _ s) fun _ => .pure (.refl s))

/-- Trees that are read one after the other are written so. -/
theorem WritesAs.flatten {item : Reading Tokens} (hitem : item.Writes) :
    (Reading.repeatWhile going item).WritesAs List.flatten := by
  intro s
  refine (WritesAs.repeatWhile (fun s _ => hitem s) s).mono fun items t h => ?_
  simpa using h

/-- Items that were taken with marks behind them, which only the last one may lack. -/
def TookList (separator : String) (written : α → Tokens) (s : Progress) (items : List (α × Tokens))
    (t : Progress) : Prop :=
  Took s (items.flatMap fun x => written x.1 ++ x.2) t ∧
    (∀ x ∈ items, OptionalMark separator x.2) ∧ ∀ x ∈ items.dropLast, IsMark separator x.2

variable {separator : String} {before after : Tokens → Bool}

/-- Of a list without items it is known what stands behind it. -/
theorem ensures_list (hitem : item.WritesAs written) (s : Progress) :
    (list separator before after item).Ensures s fun items t =>
      TookList separator written s items t ∧ (items = [] → before t.rest) := by
  refine .list hitem ?_ ?_ ?_ s
  · exact fun s => ⟨.refl s, List.forall_mem_nil _, List.forall_mem_nil _⟩
  · intro s a t ha _
    refine ⟨?_, List.forall_mem_singleton.2 (.inl rfl), List.forall_mem_nil _⟩
    simpa using ha
  · rintro s a t items u ha hmark ⟨htook, hmarks, hfront⟩
    have hm : IsMark separator (t.rest.take separator.length) := ⟨_, hmark, rfl⟩
    refine ⟨?_, List.forall_mem_cons.2 ⟨.inr hm, hmarks⟩, ?_⟩
    · exact (ha.append (.take _ t)).append htook
    · cases items with
      | nil => exact List.forall_mem_nil _
      | cons => exact List.forall_mem_cons.2 ⟨hm, hfront⟩

theorem WritesAs.list (hitem : item.WritesAs written) :
    (list separator before after item).WritesAs fun items =>
      items.flatMap fun x => written x.1 ++ x.2 :=
  fun s => (ensures_list hitem s).mono fun _ _ h => h.1.1

end Repetition

theorem WritesAs.listTokens {separator : String} {before after : Tokens → Bool}
    {item : Reading Tokens} (hitem : item.Writes) :
    (Reading.list separator before after item).WritesAs Reading.listTokens :=
  WritesAs.list hitem

theorem Writes.commaList {item : Reading Tokens} (hitem : item.Writes) :
    (Reading.commaList item).Writes :=
  fun s => .bind (WritesAs.list hitem s) fun _ _ h => .pure h

/-! ## What stays as it stands -/

theorem ensures_withWritten {p : Reading α} {r : α → Progress → Prop} (hmoves : p.Moves)
    (h : p.Ensures s r) :
    (withWritten p).Ensures s fun a t => r a.1 t ∧ Took s a.2 t := by
  refine .bind_rest (.bind (m := fun a t => r a t ∧ Moved s t) ?_ fun a t ha => ?_)
  · exact fun a t hp => ⟨h a t hp, hmoves s a t hp⟩
  · exact .bind_rest (.pure ⟨ha.1, ha.2.took_taken⟩)

/-- What is written as it is taken is so as it stands, too. -/
theorem WritesAs.withWritten {p : Reading α} {w : α → Tokens} (hp : p.WritesAs w) (s : Progress) :
    (Reading.withWritten p).Ensures s fun a t => Took s (w a.1) t ∧ Took s a.2 t :=
  ensures_withWritten hp.moves (hp s)

theorem Writes.asWritten {p : Reading α} (hp : p.Moves) : (Reading.asWritten p).Writes := by
  intro s
  refine .bind (ensures_withWritten hp (r := fun _ _ => True) fun _ _ _ => trivial) ?_
  exact fun _ _ h => .pure h.2

theorem Writes.some {p : Reading Tokens} (hp : p.Writes) :
    (do return Option.some (← p) : Reading (Option Tokens)).MayWrite :=
  fun s => .bind (hp s) fun _ _ h => .pure h.some

theorem Writes.orAsWritten {p : Reading (Option Tokens)} (hp : p.MayWrite) :
    (Reading.orAsWritten p).Writes := by
  intro s
  refine .bind_rest (.bind (hp s) fun written t h => ?_)
  cases written with
  | none => exact .bind_rest (.pure h.1.took_taken)
  | some ts => exact .pure (h.2 ts rfl)

/-! ## Readings that only take -/

section Moves

theorem Ensures.bind_moves {p : Reading α} {q : α → Reading β} {r : β → Progress → Prop}
    (h : Moved s t) (hp : p.Moves) (hq : ∀ a u, Moved s u → (q a).Ensures u r) :
    (p >>= q).Ensures t r :=
  .bind (hp t) fun a u hu => hq a u (h.trans hu)

theorem Moves.list {item : Reading α} {separator : String} {before after : Tokens → Bool}
    (hitem : item.Moves) : (Reading.list separator before after item).Moves := by
  intro s
  refine (Ensures.list (I := fun s _ t => Moved s t) (R := fun s _ t => Moved s t) hitem .refl
    (fun h _ => h) ?_ s).mono fun _ _ h => h.1
  exact fun h _ hmore => h.trans ((Took.take _ _).moved.trans hmore)

end Moves

/-! ## The whole -/

/-- What is read as a whole is written as a whole. -/
theorem WritesAs.respells_of_whole {p : Reading α} {written : α → Tokens} (hp : p.WritesAs written)
    {ts : Tokens} {a : α} (h : whole p ts = .ok a) : Respells [] ts (written a) := by
  obtain ⟨s, hs, hend, hleftover⟩ := exists_of_whole_eq_ok h
  obtain ⟨-, taken, htaken, hspells⟩ := hp _ a s hs hleftover
  rw [hend, List.append_nil] at htaken
  rw [hend] at hspells
  rw [show ts = taken from htaken]
  exact hspells

end Reading

end ScreenRoutes
