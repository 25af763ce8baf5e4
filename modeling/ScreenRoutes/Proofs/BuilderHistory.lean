import Mathlib.Data.List.DropRight
import ScreenRoutes.Proofs.Graph

/-!
# Histories of a builder

A builder is used again after it has built a graph, and after it has failed to. What it builds next
is told by its history: the destinations registered since the last build, whatever came of that, and
the start given last since the last build that succeeded (`builder_after_history`). A failed build
so leaves its start to the next one, but none of its destinations.
-/

namespace ScreenRoutes

variable {κ : Type}

/-! ## What can be built -/

/-- Whether no pattern is registered twice and every pattern can be read. -/
def Buildable (rs : List (Registered κ)) : Prop :=
  (rs.map (·.pattern)).Nodup ∧ ∀ r ∈ rs, ∃ p, Pattern.parse r.pattern = .ok p

/-- What a registration is blamed for behind those `before` it. -/
inductive Registered.Blamed (before : List (Registered κ)) (r : Registered κ) :
    NavigationError → Prop
  | repeated : r.pattern ∈ before.map (·.pattern) →
      Blamed before r (.duplicateDestination r.pattern)
  | unreadable {fault : PatternFault} : Pattern.parse r.pattern = .error fault →
      Blamed before r (.invalidPattern r.pattern fault)

/-- Whether `e` blames the first registration that there is something to blame for, with `front`
before all of them. -/
def FirstBlamed (front rs : List (Registered κ)) (e : NavigationError) : Prop :=
  ∃ before r after, rs = before ++ r :: after ∧ Buildable (front ++ before) ∧
    r.Blamed (front ++ before) e

theorem buildable_nil : Buildable ([] : List (Registered κ)) :=
  ⟨List.nodup_nil, List.forall_mem_nil _⟩

theorem Buildable.of_append {front rs : List (Registered κ)} (h : Buildable (front ++ rs)) :
    Buildable front := by
  obtain ⟨hnodup, hread⟩ := h
  rw [List.map_append] at hnodup
  exact ⟨hnodup.of_append_left, fun r hr => hread r (List.mem_append_left _ hr)⟩

/-- A registration can be added unless it is blamed for something. -/
theorem buildable_append_singleton {front : List (Registered κ)} {r : Registered κ} :
    Buildable (front ++ [r]) ↔ Buildable front ∧ ∀ e, ¬ r.Blamed front e := by
  constructor
  · intro h
    refine ⟨h.of_append, fun e he => ?_⟩
    obtain ⟨hnodup, hread⟩ := h
    cases he with
    | repeated hmem =>
      rw [List.map_append, List.nodup_append] at hnodup
      exact hnodup.2.2 _ hmem _ (List.mem_singleton_self _) rfl
    | unreadable hfault =>
      obtain ⟨p, hp⟩ := hread r (List.mem_append_right _ (List.mem_singleton_self r))
      rw [hfault] at hp
      cases hp
  · rintro ⟨⟨hnodup, hread⟩, hblamed⟩
    have hnew : r.pattern ∉ front.map (·.pattern) := fun hmem => hblamed _ (.repeated hmem)
    refine ⟨?_, ?_⟩
    · rw [List.map_append]
      exact hnodup.append (List.nodup_singleton _) (List.disjoint_singleton.2 hnew)
    · rw [List.forall_mem_append, List.forall_mem_singleton]
      refine ⟨hread, ?_⟩
      cases hp : Pattern.parse r.pattern with
      | ok p => exact ⟨p, rfl⟩
      | error fault => exact absurd (.unreadable hp) (hblamed _)

theorem Registered.Blamed.not_buildable {front : List (Registered κ)} {r : Registered κ}
    {e : NavigationError} (h : r.Blamed front e) : ¬ Buildable (front ++ [r]) := fun hbuild =>
  (buildable_append_singleton.1 hbuild).2 e h

section Blame

variable {front : List (Registered κ)} {r : Registered κ} {e : NavigationError}

/-- A repeated pattern was read before, so it is blamed for nothing else. -/
theorem blamed_iff_of_mem (h : Buildable front) (hmem : r.pattern ∈ front.map (·.pattern)) :
    r.Blamed front e ↔ .duplicateDestination r.pattern = e := by
  constructor
  · intro hblamed
    cases hblamed with
    | repeated => rfl
    | unreadable hfault =>
      obtain ⟨r', hr', hpattern⟩ := List.mem_map.1 hmem
      obtain ⟨p, hp⟩ := h.2 r' hr'
      rw [hpattern, hfault] at hp
      cases hp
  · rintro rfl
    exact .repeated hmem

theorem blamed_iff_of_parse_error {fault : PatternFault}
    (hnew : r.pattern ∉ front.map (·.pattern)) (hparse : Pattern.parse r.pattern = .error fault) :
    r.Blamed front e ↔ .invalidPattern r.pattern fault = e := by
  constructor
  · intro hblamed
    cases hblamed with
    | repeated hmem => exact absurd hmem hnew
    | unreadable hfault => rw [Except.error.inj (hparse.symm.trans hfault)]
  · rintro rfl
    exact .unreadable hparse

theorem not_blamed_of_parse {p : Pattern} (hnew : r.pattern ∉ front.map (·.pattern))
    (hparse : Pattern.parse r.pattern = .ok p) : ¬ r.Blamed front e := by
  intro hblamed
  cases hblamed with
  | repeated hmem => exact hnew hmem
  | unreadable hfault => cases hparse.symm.trans hfault

end Blame

theorem firstBlamed_nil {front : List (Registered κ)} {e : NavigationError} :
    ¬ FirstBlamed front [] e := by
  rintro ⟨before, r, after, hsplit, -⟩
  simp at hsplit

theorem firstBlamed_cons {front : List (Registered κ)} (h : Buildable front) {r : Registered κ}
    {rs : List (Registered κ)} {e : NavigationError} :
    FirstBlamed front (r :: rs) e ↔
      r.Blamed front e ∨ Buildable (front ++ [r]) ∧ FirstBlamed (front ++ [r]) rs e := by
  constructor
  · rintro ⟨before, r', after, hsplit, hbefore, hblamed⟩
    cases before with
    | nil =>
      obtain ⟨rfl, -⟩ := List.cons.inj hsplit
      rw [List.append_nil] at hblamed
      exact .inl hblamed
    | cons x before =>
      obtain ⟨rfl, rfl⟩ := List.cons.inj hsplit
      rw [List.append_cons] at hbefore hblamed
      exact .inr ⟨hbefore.of_append, before, r', after, rfl, hbefore, hblamed⟩
  · rintro (hblamed | ⟨-, before, r', after, rfl, hbefore, hblamed⟩)
    · exact ⟨[], r, rs, rfl, by rwa [List.append_nil], by rwa [List.append_nil]⟩
    · rw [← List.append_cons] at hbefore hblamed
      exact ⟨r :: before, r', after, rfl, hbefore, hblamed⟩

/-- Behind registrations that can be built, the first to be blamed is. -/
theorem buildDestinations_eq_error_iff {front : List (Registered κ)} (h : Buildable front)
    {seen : List String} (hseen : ∀ pattern, pattern ∈ seen ↔ pattern ∈ front.map (·.pattern))
    {rs : List (Registered κ)} {e : NavigationError} :
    buildDestinations seen rs = .error e ↔ FirstBlamed front rs e := by
  induction rs generalizing front seen with
  | nil => simp [buildDestinations, firstBlamed_nil]
  | cons r rs ih =>
    rw [buildDestinations, firstBlamed_cons h]
    by_cases hmem : r.pattern ∈ seen
    · have hrepeated := (hseen _).1 hmem
      rw [if_pos hmem, blamed_iff_of_mem h hrepeated, Except.error.injEq]
      simp only [(Registered.Blamed.repeated hrepeated).not_buildable, false_and, or_false]
    · have hnew : r.pattern ∉ front.map (·.pattern) := fun hfront => hmem ((hseen _).2 hfront)
      rw [if_neg hmem]
      cases hparse : Pattern.parse r.pattern with
      | error fault =>
        simp only [Except.error.injEq, blamed_iff_of_parse_error hnew hparse,
          (Registered.Blamed.unreadable hparse).not_buildable, false_and, or_false]
      | ok p =>
        have hfine : ∀ e, ¬ r.Blamed front e := fun _ => not_blamed_of_parse hnew hparse
        have hbuild : Buildable (front ++ [r]) := buildable_append_singleton.2 ⟨h, hfine⟩
        have hseen' : ∀ pattern, pattern ∈ r.pattern :: seen ↔
            pattern ∈ (front ++ [r]).map (·.pattern) := by
          intro pattern
          rw [List.mem_cons, hseen, List.map_append, List.mem_append, or_comm]
          simp
        simp only [hfine, hbuild, true_and, false_or, ← ih hbuild hseen']
        cases buildDestinations (r.pattern :: seen) rs <;> simp [Except.map]

theorem exists_forall₂_comesFrom_iff {rs : List (Registered κ)} :
    (∃ ds : List (Destination κ), List.Forall₂ (fun r d => d.ComesFrom r) rs ds) ↔
      ∀ r ∈ rs, ∃ p, Pattern.parse r.pattern = .ok p := by
  induction rs with
  | nil => simp
  | cons r rs ih =>
    rw [List.forall_mem_cons, ← ih]
    constructor
    · rintro ⟨ds, hds⟩
      obtain ⟨d, rest, hd, hrest, -⟩ := List.forall₂_cons_left_iff.1 hds
      exact ⟨⟨d.pattern, hd.parse_eq⟩, rest, hrest⟩
    · rintro ⟨⟨p, hp⟩, rest, hrest⟩
      exact ⟨⟨p, r.arguments, r.content⟩ :: rest, .cons ⟨hp, rfl, rfl⟩ hrest⟩

theorem texts_of_comesFrom {rs : List (Registered κ)} {ds : List (Destination κ)}
    (h : List.Forall₂ (fun r d => d.ComesFrom r) rs ds) :
    ds.map (·.pattern.text) = rs.map (·.pattern) := by
  induction h with
  | nil => rfl
  | cons hd _ ih => rw [List.map_cons, List.map_cons, ih, hd.text_eq]

namespace GraphBuilder

theorem exists_build_iff {b : GraphBuilder κ} :
    (∃ g, b.build.1 = .ok g) ↔ Buildable b.pending := by
  rw [Buildable, ← exists_forall₂_comesFrom_iff]
  constructor
  · rintro ⟨g, hg⟩
    obtain ⟨hnodup, hall, -⟩ := build_eq_ok_iff.1 hg
    exact ⟨hnodup, _, hall⟩
  · rintro ⟨hnodup, ds, hall⟩
    exact ⟨⟨ds, b.start⟩, build_eq_ok_iff.2 ⟨hnodup, hall, rfl⟩⟩

theorem patterns_of_build {b : GraphBuilder κ} {g : Graph κ} (h : b.build.1 = .ok g) :
    g.patterns = b.pending.map (·.pattern) :=
  texts_of_comesFrom (build_eq_ok_iff.1 h).2.1

theorem build_eq_error_iff {b : GraphBuilder κ} {e : NavigationError} :
    b.build.1 = .error e ↔ FirstBlamed [] b.pending e := by
  have herror : buildDestinations [] b.pending = .error e ↔ FirstBlamed [] b.pending e :=
    buildDestinations_eq_error_iff buildable_nil (by simp)
  rw [← herror, build]
  cases buildDestinations [] b.pending <;> simp

/-- A build uses up the destinations, and the start where it succeeds. -/
theorem build_snd (b : GraphBuilder κ) :
    b.build.2 = ⟨[], if b.build.1.isOk then none else b.start⟩ := by
  rw [build]
  cases buildDestinations [] b.pending <;> rfl

end GraphBuilder

/-! ## Histories -/

inductive BuilderCall (κ : Type) where
  | register (r : Registered κ)
  | startAt (route : String)
  | build

/-- A call that was served, and what came of it. -/
inductive BuilderEvent (κ : Type) where
  | registered (r : Registered κ)
  | startedAt (route : String)
  | built (result : Except NavigationError (Graph κ))

namespace BuilderEvent

def isBuild : BuilderEvent κ → Bool
  | .built _ => true
  | _ => false

/-- Whether a graph was built. -/
def isSuccess : BuilderEvent κ → Bool
  | .built result => result.isOk
  | _ => false

def registered? : BuilderEvent κ → Option (Registered κ)
  | .registered r => some r
  | _ => none

def route? : BuilderEvent κ → Option String
  | .startedAt route => some route
  | _ => none

/-- What was registered since the last build, whatever came of it. -/
def addedSince (events : List (BuilderEvent κ)) : List (Registered κ) :=
  (events.rtakeWhile fun e => !e.isBuild).filterMap registered?

/-- The start that was given last since a graph was last built. -/
def startSince (events : List (BuilderEvent κ)) : Option String :=
  ((events.rtakeWhile fun e => !e.isSuccess).filterMap route?).getLast?

/-- The builder that a history leaves behind. -/
def builder (events : List (BuilderEvent κ)) : GraphBuilder κ :=
  ⟨addedSince events, startSince events⟩

variable (events : List (BuilderEvent κ))

@[simp]
theorem addedSince_registered (r : Registered κ) :
    addedSince (events ++ [registered r]) = addedSince events ++ [r] := by
  simp [addedSince, isBuild, registered?]

@[simp]
theorem addedSince_startedAt (route : String) :
    addedSince (events ++ [startedAt route]) = addedSince events := by
  simp [addedSince, isBuild, registered?]

@[simp]
theorem addedSince_built (result : Except NavigationError (Graph κ)) :
    addedSince (events ++ [built result]) = [] := by
  simp [addedSince, isBuild]

@[simp]
theorem startSince_registered (r : Registered κ) :
    startSince (events ++ [registered r]) = startSince events := by
  simp [startSince, isSuccess, route?]

@[simp]
theorem startSince_startedAt (route : String) :
    startSince (events ++ [startedAt route]) = some route := by
  simp [startSince, isSuccess, route?]

@[simp]
theorem startSince_built (result : Except NavigationError (Graph κ)) :
    startSince (events ++ [built result]) = if result.isOk then none else startSince events := by
  cases result <;> simp [startSince, isSuccess, route?, Except.isOk, Except.toBool]

end BuilderEvent

namespace GraphBuilder

open BuilderEvent

def serve (b : GraphBuilder κ) : BuilderCall κ → BuilderEvent κ × GraphBuilder κ
  | .register r => (.registered r, b.add r.pattern r.arguments r.content)
  | .startAt route => (.startedAt route, b.startAt route)
  | .build => (.built b.build.1, b.build.2)

/-- Serves calls one after the other. -/
def serveAll (b : GraphBuilder κ) : List (BuilderCall κ) → List (BuilderEvent κ) × GraphBuilder κ
  | [] => ([], b)
  | call :: calls =>
    let (event, b') := b.serve call
    let (events, b'') := b'.serveAll calls
    (event :: events, b'')

theorem serveAll_append (b : GraphBuilder κ) (calls more : List (BuilderCall κ)) :
    b.serveAll (calls ++ more) =
      ((b.serveAll calls).1 ++ ((b.serveAll calls).2.serveAll more).1,
        ((b.serveAll calls).2.serveAll more).2) := by
  induction calls generalizing b with
  | nil => rfl
  | cons call calls ih => simp only [List.cons_append, serveAll, ih]

/-- A call takes the builder of a history to that of the history with the call. -/
theorem serve_builder (events : List (BuilderEvent κ)) (call : BuilderCall κ) :
    ((builder events).serve call).2 = builder (events ++ [((builder events).serve call).1]) := by
  cases call with
  | register r => simp [serve, builder, add]
  | startAt route => simp [serve, builder, startAt]
  | build => simp [serve, builder, build_snd]

/-- **A builder is what its history says**, whatever was asked of it. -/
theorem serveAll_builder (events : List (BuilderEvent κ)) (calls : List (BuilderCall κ)) :
    ((builder events).serveAll calls).2 =
      builder (events ++ ((builder events).serveAll calls).1) := by
  induction calls generalizing events with
  | nil => simp [serveAll]
  | cons call calls ih =>
    simp only [serveAll]
    rw [serve_builder, ih, List.append_assoc, List.singleton_append]

/-- **What a builder builds is told by its history.** Whatever was asked of it before and is asked
of it afterwards, a build makes a graph of what was registered since the last build, starting where
it was told to last since the last graph, exactly where all of it can be built; else it blames the
first registration that cannot. The destinations are gone then, and the start where a graph was
built. -/
theorem builder_after_history (calls more : List (BuilderCall κ)) :
    let events := (empty.serveAll calls).1
    let added := addedSince events
    let start := startSince events
    ∃ result b,
      empty.serveAll (calls ++ [.build]) = (events ++ [.built result], b) ∧
      (∃ later, (empty.serveAll (calls ++ .build :: more)).1 = events ++ .built result :: later) ∧
      ((∃ g, result = .ok g) ↔ Buildable added) ∧
      (∀ g, result = .ok g → g.patterns = added.map (·.pattern) ∧
        List.Forall₂ (fun r d => d.ComesFrom r) added g.destinations ∧ g.start = start) ∧
      (∀ e, result = .error e ↔ FirstBlamed [] added e) ∧
      b.pending = [] ∧ b.start = if result.isOk then none else start := by
  intro events added start
  have hb : (empty.serveAll calls).2 = builder events := serveAll_builder [] calls
  refine ⟨(builder events).build.1, (builder events).build.2, ?_, ?_, exists_build_iff, ?_,
    fun e => build_eq_error_iff, ?_, ?_⟩
  · rw [serveAll_append, hb]
    rfl
  · refine ⟨((builder events).build.2.serveAll more).1, ?_⟩
    rw [serveAll_append, hb]
    rfl
  · intro g hg
    obtain ⟨-, hall, hstart⟩ := build_eq_ok_iff.1 hg
    exact ⟨patterns_of_build hg, hall, hstart⟩
  · rw [build_snd]
  · rw [build_snd]
    rfl

-- A start outlives the build that failed with it.
example (r : Registered κ) :
    startSince [.startedAt "home", .built (.error (.duplicateDestination "about")), .registered r] =
      some "home" := rfl

end GraphBuilder

end ScreenRoutes
