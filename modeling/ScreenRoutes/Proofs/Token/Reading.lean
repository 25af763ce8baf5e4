import ScreenRoutes.Token.Reading

/-!
# Readings that succeed

A reading made of others succeeds only where they do, each going on where the one before stopped. So
what a reading ensures of whatever it yields follows from what its parts ensure (`Reading.Ensures`).
-/

namespace ScreenRoutes

namespace Tokens

theorem take_one_of_startsWord {w : String} {ts : Tokens} (h : startsWord w ts) :
    ts.take 1 = [.ident w] := by
  unfold startsWord at h
  split at h
  · rw [beq_iff_eq] at h
    rw [h]
    rfl
  · cases h

theorem exists_of_startsChars {c : Char} {cs : List Char} {ts : Tokens}
    (h : startsChars (c :: cs) ts) : ∃ joint more, ts = .punct c joint :: more ∧
      (cs ≠ [] → joint ∧ startsChars cs more) := by
  cases ts with
  | nil => cases cs <;> cases h
  | cons t more =>
    cases t with
    | punct d joint =>
      cases cs with
      | nil =>
        obtain rfl : c = d := beq_iff_eq.1 h
        exact ⟨joint, more, rfl, absurd rfl⟩
      | cons c' cs =>
        simp only [startsChars, Bool.and_eq_true, beq_iff_eq] at h
        obtain ⟨⟨rfl, hjoint⟩, hmore⟩ := h
        exact ⟨joint, more, rfl, fun _ => ⟨hjoint, hmore⟩⟩
    | ident => cases cs <;> cases h
    | literal => cases cs <;> cases h
    | group => cases cs <;> cases h

/-- A mark of one character is one tree. -/
theorem exists_of_startsMark {m : String} {c : Char} (hm : m.toList = [c]) {ts : Tokens}
    (h : startsMark m ts) : ∃ joint more, ts = .punct c joint :: more := by
  rw [startsMark, hm] at h
  obtain ⟨joint, more, hts, -⟩ := exists_of_startsChars h
  exact ⟨joint, more, hts⟩

/-- A mark of two characters is two trees, the first joined to the second. -/
theorem exists_of_startsMark_pair {m : String} {c d : Char} (hm : m.toList = [c, d]) {ts : Tokens}
    (h : startsMark m ts) : ∃ joint more, ts = .punct c true :: .punct d joint :: more := by
  rw [startsMark, hm] at h
  obtain ⟨joint, more, rfl, hmore⟩ := exists_of_startsChars h
  obtain ⟨rfl, hd⟩ := hmore (List.cons_ne_nil _ _)
  obtain ⟨joint, more, rfl, -⟩ := exists_of_startsChars hd
  exact ⟨joint, more, rfl⟩

end Tokens

namespace Reading

variable {α β : Type}

theorem bind_eq_ok {p : Reading α} {q : α → Reading β} {s : Progress} {r : β × Progress}
    (h : (p >>= q) s = .ok r) : ∃ a t, p s = .ok (a, t) ∧ q a t = .ok r := by
  cases hp : p s with
  | error fault => simp [bind, StateT.bind, Except.bind, hp] at h
  | ok result =>
    refine ⟨result.1, result.2, rfl, ?_⟩
    simpa [bind, StateT.bind, Except.bind, hp] using h

theorem exists_of_whole_eq_ok {p : Reading α} {ts : Tokens} {a : α} (h : whole p ts = .ok a) :
    ∃ s, p ⟨ts, none⟩ = .ok (a, s) ∧ s.rest = [] ∧ s.leftover = none := by
  cases hp : p ⟨ts, none⟩ with
  | error fault => simp [whole, StateT.run, bind, Except.bind, hp] at h
  | ok result =>
    simp only [whole, StateT.run, bind, Except.bind, hp] at h
    split at h
    · cases h
    · next hleftover =>
      split at h
      · next hend =>
        cases h
        exact ⟨_, rfl, List.isEmpty_iff.1 hend, hleftover⟩
      · cases h

theorem whole_eq_ok {p : Reading α} {ts : Tokens} {a : α} (h : whole p ts = .ok a) :
    ∃ s, p ⟨ts, none⟩ = .ok (a, s) :=
  (exists_of_whole_eq_ok h).imp fun _ hs => hs.1

/-! ## What readings ensure -/

variable {p : Reading α} {s : Progress} {r : α → Progress → Prop}

/-- Whether whatever a reading yields at `s`, with the trees that remain behind it, is as `r` says. -/
def Ensures (p : Reading α) (s : Progress) (r : α → Progress → Prop) : Prop :=
  ∀ a t, p s = .ok (a, t) → r a t

namespace Ensures

theorem mono {q : α → Progress → Prop} (h : p.Ensures s r) (himp : ∀ a t, r a t → q a t) :
    p.Ensures s q :=
  fun a t hp => himp a t (h a t hp)

theorem and {q : α → Progress → Prop} (h : p.Ensures s r) (h' : p.Ensures s q) :
    p.Ensures s fun a t => r a t ∧ q a t :=
  fun a t hp => ⟨h a t hp, h' a t hp⟩

theorem pure {a : α} (h : r a s) : Ensures (Pure.pure a) s r := by
  intro b t hp
  obtain ⟨rfl, rfl⟩ := Prod.mk.inj (Except.ok.inj hp)
  exact h

theorem throw {fault : TokenFault} : Ensures (MonadExcept.throw fault : Reading α) s r := by
  intro a t hp
  cases hp

theorem ite {c : Prop} [Decidable c] {q : Reading α} (hp : c → p.Ensures s r)
    (hq : ¬ c → q.Ensures s r) : Ensures (if c then p else q) s r := by
  split
  · next hc => exact hp hc
  · next hc => exact hq hc

section Sequence

variable {t : Progress} {r : β → Progress → Prop}

theorem bind {q : α → Reading β} {m : α → Progress → Prop} (hp : p.Ensures s m)
    (hq : ∀ a t, m a t → (q a).Ensures t r) : (p >>= q).Ensures s r := by
  intro b t h
  obtain ⟨a, u, ha, hb⟩ := bind_eq_ok h
  exact hq a u (hp a u ha) b t hb

/-- Behind whatever a reading may yield. -/
theorem bind_any {q : α → Reading β} (hq : ∀ a t, (q a).Ensures t r) : (p >>= q).Ensures s r :=
  bind (m := fun _ _ => True) (fun _ _ _ => trivial) fun a t _ => hq a t

theorem bind_rest {q : Tokens → Reading β} (h : (q s.rest).Ensures s r) :
    (rest >>= q).Ensures s r := by
  intro b t hp
  exact h b t hp

theorem bind_ahead {property : Tokens → Bool} {q : Bool → Reading β}
    (h : (q (property s.rest)).Ensures s r) : (ahead property >>= q).Ensures s r := by
  intro b t hp
  exact h b t hp

theorem bind_take {n : Nat} {q : Tokens → Reading β}
    (h : (q (s.rest.take n)).Ensures { s with rest := s.rest.drop n } r) :
    (take n >>= q).Ensures s r := by
  intro b t hp
  exact h b t hp

/-- Going on behind whichever of two readings there is. -/
theorem bind_branch {c : Prop} [Decidable c] {p' : Reading α} {q : α → Reading β}
    {m : α → Progress → Prop} (hp : c → p.Ensures s m) (hp' : ¬ c → p'.Ensures s m)
    (hq : ∀ a t, m a t → (q a).Ensures t r) :
    (if c then p >>= q else p' >>= q).Ensures s r :=
  ite (fun hc => bind (hp hc) hq) fun hc => bind (hp' hc) hq

/-- Going on where there is no reason to fail. -/
theorem guard {c : Prop} [Decidable c] {fault : TokenFault} {q : Unit → Reading β}
    (h : ¬ c → (q ()).Ensures s r) :
    (if c then (MonadExcept.throw fault : Reading Unit) >>= q else q ()).Ensures s r :=
  ite (fun _ => bind (m := fun _ _ => False) throw fun _ _ => False.elim) h

theorem bind_get {q : Progress → Reading β} (h : (q s).Ensures s r) : (get >>= q).Ensures s r :=
  fun b t hp => h b t hp

theorem bind_set {q : PUnit → Reading β} (h : (q ⟨⟩).Ensures t r) : (set t >>= q).Ensures s r :=
  fun b u hp => h b u hp

/-- Where it is known what is yielded. -/
theorem bind_of_eq {a : α} (hp : p s = .ok (a, t)) (h : (q a).Ensures t r) :
    (p >>= q).Ensures s r := by
  intro b u hb
  obtain ⟨a', t', ha, hb⟩ := bind_eq_ok hb
  obtain ⟨rfl, rfl⟩ := Prod.mk.inj (Except.ok.inj (hp.symm.trans ha))
  exact h b u hb

/-- What a reading yields elsewhere. -/
theorem bind_run {q : α × Progress → Reading β}
    (h : ∀ a u, p t = .ok (a, u) → (q (a, u)).Ensures s r) :
    ((p.run t : Except TokenFault (α × Progress)) >>= q : Reading β).Ensures s r := by
  intro b u hb
  obtain ⟨result, v, hresult, hb⟩ := bind_eq_ok hb
  have hrun : (liftM (p.run t) : Reading (α × Progress)) s =
      (p t).bind fun result => .ok (result, s) :=
    rfl
  cases hp : p t with
  | error fault =>
    rw [hrun, hp] at hresult
    cases hresult
  | ok result =>
    rw [hrun, hp] at hresult
    cases hresult
    exact h _ _ hp b u hb

/-- A look ahead takes nothing. -/
theorem bind_foresee {q : Option (α × Tokens) → Reading β} (h : ∀ found, (q found).Ensures s r) :
    (foresee p >>= q).Ensures s r := by
  rw [foresee, bind_assoc]
  refine bind_get ?_
  split
  · rw [pure_bind]
    exact h _
  · rw [pure_bind]
    exact h _

/-- What is found ahead is what is read there. -/
theorem bind_preview {q : α × Tokens → Reading β}
    (h : ∀ a t, p s = .ok (a, t) → (q (a, t.rest)).Ensures s r) : (preview p >>= q).Ensures s r := by
  rw [preview, bind_assoc]
  refine bind_get ?_
  rw [bind_assoc]
  exact bind_run h

theorem bind_attempt {q : Option α → Reading β} (hsome : ∀ a t, p s = .ok (a, t) → (q a).Ensures t r)
    (hnone : (q none).Ensures s r) : (attempt p >>= q).Ensures s r := by
  intro b u hb
  obtain ⟨found, t, hfound, hb⟩ := bind_eq_ok hb
  rw [attempt] at hfound
  split at hfound
  · next a t' hp =>
    cases hfound
    exact hsome a _ hp b u hb
  · cases hfound
    exact hnone b u hb

end Sequence

theorem expected {what : String} : Ensures (Reading.expected what : Reading α) s r :=
  bind_any fun _ _ => throw

theorem expectedOneOf {whats : List String} :
    Ensures (Reading.expectedOneOf whats : Reading α) s r := by
  unfold Reading.expectedOneOf
  split <;> exact expected

/-- What holds of every item holds of all items together. -/
theorem repeatFor {going : Tokens → Bool} {R : Progress → Progress → Prop} (hrefl : ∀ s, R s s)
    (htrans : ∀ {s t u}, R s t → R t u → R s u)
    (hitem : ∀ s, going s.rest → p.Ensures s fun _ t => R s t) (fuel : Nat) (s : Progress) :
    (Reading.repeatFor fuel going p).Ensures s fun _ t => R s t := by
  induction fuel generalizing s with
  | zero => exact pure (hrefl s)
  | succ fuel ih =>
    rw [Reading.repeatFor]
    refine bind_rest (ite (fun hgoing => ?_) fun _ => pure (hrefl s))
    refine bind (hitem s hgoing) fun a t hfirst => ?_
    exact bind (ih t) fun _ u hmore => pure (htrans hfirst hmore)

theorem repeatWhile {going : Tokens → Bool} {R : Progress → Progress → Prop} (hrefl : ∀ s, R s s)
    (htrans : ∀ {s t u}, R s t → R t u → R s u)
    (hitem : ∀ s, going s.rest → p.Ensures s fun _ t => R s t) (s : Progress) :
    (Reading.repeatWhile going p).Ensures s fun _ t => R s t :=
  bind_rest (ite (fun _ => repeatFor hrefl htrans hitem _ s) fun _ => pure (hrefl s))

/-- What is known of every item is known of all that are read. -/
theorem repeatWhile_all {going : Tokens → Bool} {P : α → Prop}
    (hitem : ∀ s, going s.rest → p.Ensures s fun a _ => P a) (s : Progress) :
    (Reading.repeatWhile going p).Ensures s fun l _ => ∀ a ∈ l, P a := by
  have hfor (fuel : Nat) (s : Progress) :
      (Reading.repeatFor fuel going p).Ensures s fun l _ => ∀ a ∈ l, P a := by
    induction fuel generalizing s with
    | zero => exact pure nofun
    | succ fuel ih =>
      rw [Reading.repeatFor]
      refine bind_rest (ite (fun hgoing => ?_) fun _ => pure nofun)
      refine bind (hitem s hgoing) fun a t ha => bind (ih t) fun more u hmore => pure ?_
      exact List.forall_mem_cons.2 ⟨ha, hmore⟩
  exact bind_rest (ite (fun _ => hfor _ s) fun _ => pure nofun)

/-- What holds of a list without items, and of one that starts with an item, holds of every list. Of a
list without items it is known what stands behind it. -/
theorem list {separator : String} {before after : Tokens → Bool} {I : Progress → α → Progress → Prop}
    {R : Progress → List (α × Tokens) → Progress → Prop} (hitem : ∀ s, p.Ensures s (I s))
    (hnil : ∀ s, R s [] s) (hlast : ∀ {s a t}, I s a t → after t.rest → R s [(a, [])] t)
    (hcons : ∀ {s a t items u}, I s a t → Tokens.startsMark separator t.rest →
      R { t with rest := t.rest.drop separator.length } items u →
        R s ((a, t.rest.take separator.length) :: items) u) (s : Progress) :
    (Reading.list separator before after p).Ensures s fun items t =>
      R s items t ∧ (items = [] → before t.rest) := by
  have hlistItem {more : Reading (List (α × Tokens))} (hmore : ∀ s, more.Ensures s (R s))
      (s : Progress) : (listItem separator before after p more).Ensures s fun items t =>
        R s items t ∧ (items = [] → before t.rest) := by
    refine bind_rest (ite (fun hbefore => pure ⟨hnil s, fun _ => hbefore⟩) fun _ => ?_)
    refine bind (hitem s) fun a t ha => bind_rest (ite (fun hafter => ?_) fun _ => ?_)
    · exact pure ⟨hlast ha hafter, fun h => absurd h (List.cons_ne_nil _ _)⟩
    · refine bind (m := fun m u => Tokens.startsMark separator t.rest ∧
        m = t.rest.take separator.length ∧ u = ⟨t.rest.drop separator.length, t.leftover⟩) ?_ ?_
      · exact bind_ahead (ite (fun hmark => bind_take (pure ⟨hmark, rfl, rfl⟩)) fun _ => throw)
      · rintro _ _ ⟨hmark, rfl, rfl⟩
        refine bind (hmore _) fun items u hitems => pure ?_
        exact ⟨hcons ha hmark hitems, fun h => absurd h (List.cons_ne_nil _ _)⟩
  have hlistFor (fuel : Nat) (s : Progress) :
      (listFor fuel separator before after p).Ensures s (R s) := by
    induction fuel generalizing s with
    | zero => exact pure (hnil s)
    | succ fuel ih => exact (hlistItem ih s).mono fun _ _ h => h.1
  exact hlistItem (fun s => bind_rest (hlistFor _ s)) s

/-- What is known of every item is known of all in a list. -/
theorem list_all {separator : String} {before after : Tokens → Bool} {P : α → Prop}
    (hitem : ∀ s, p.Ensures s fun a _ => P a) (s : Progress) :
    (Reading.list separator before after p).Ensures s fun items _ => ∀ x ∈ items, P x.1 := by
  refine (list (I := fun _ a _ => P a) (R := fun _ items _ => ∀ x ∈ items, P x.1) hitem ?_ ?_ ?_ s).mono
    fun _ _ h => h.1
  · exact fun _ => nofun
  · exact fun ha _ => List.forall_mem_singleton.2 ha
  · exact fun ha _ hitems => List.forall_mem_cons.2 ⟨ha, hitems⟩

/-- The first item of some is there where they go on. -/
theorem repeatWhile_cons {going : Tokens → Bool} {r : α → Progress → Prop} {s : Progress}
    (hgoing : going s.rest) (hitem : p.Ensures s r) :
    (Reading.repeatWhile going p).Ensures s fun l _ => ∃ a more t, l = a :: more ∧ r a t := by
  refine bind_rest (ite (fun _ => ?_) (absurd hgoing))
  rw [Reading.repeatFor]
  refine bind_rest (ite (fun _ => ?_) (absurd hgoing))
  exact bind hitem fun a t ha => bind_any fun more u => pure ⟨a, more, t, rfl, ha⟩

end Ensures

/-- Reading what is inside a group takes the group, and records what is left over in it. -/
theorem ensures_inside (d : Delimiter) (p : Reading α) (s : Progress) :
    (inside d p).Ensures s fun a t => ∃ content u, s.rest = .group d content :: t.rest ∧
      p ⟨content, s.leftover⟩ = .ok (a, u) ∧
      t.leftover = (u.leftover <|> if u.rest.isEmpty then none else some d) := by
  rw [inside]
  refine .bind_rest ?_
  split
  · next e content more hrest =>
    refine .ite (fun hd => ?_) fun _ => .expected
    refine .bind_get (.bind_run fun a u hu => .bind_set (.pure ?_))
    rw [hd, hrest]
    exact ⟨content, u, rfl, hu, rfl⟩
  · exact .expected

/-- Nothing is left over behind a group only if nothing was before it, nor in it. -/
theorem orElse_unread_eq_none {leftover : Option Delimiter} {isEnd : Bool} {d : Delimiter} :
    (leftover <|> if isEnd then none else some d) = none ↔ leftover = none ∧ isEnd := by
  cases leftover <;> cases isEnd <;> simp

/-- What is known of all that a reading yields is known of it inside of a group. -/
theorem Ensures.inside {P : α → Prop} (d : Delimiter) (hp : ∀ s, p.Ensures s fun a _ => P a) :
    (inside d p).Ensures s fun a _ => P a := by
  refine (ensures_inside d p s).mono ?_
  rintro a t ⟨content, u, -, hu, -⟩
  exact hp _ a u hu

end Reading

end ScreenRoutes
