import ScreenRoutes.Proofs.Controller.Machine
import ScreenRoutes.Tour

/-!
# The flat machine

However deep content is nested, a controller goes through one list of changes: graphs attached,
frames pushed and frames dropped. A machine that only has the list does the same
(`Controller.replay`), and with the content that it shows after each change (`Controller.narrate`)
it tells the whole history of a run (`nested_run_is_flat`). So what content does comes after the
call that showed it, and changes neither that call's reply nor its effect.
-/

namespace ScreenRoutes

variable {κ σ : Type}

/-! ## Changes -/

def Event.isChange : Event κ → Bool
  | .attached _ | .pushed _ | .dropped => true
  | .shown .. => false

/-- The push that a route comes to, if the graph finds it. -/
def Graph.arrival (g : Graph κ) (route : String) : List (Event κ) :=
  match g.find route with
  | .error _ => []
  | .ok (entry, content) => [.pushed ⟨entry, content⟩]

theorem Graph.arrival_of_error {g : Graph κ} {route : String} {e : NavigationError}
    (h : g.find route = .error e) : g.arrival route = [] := by
  rw [arrival, h]

theorem Graph.arrival_of_ok {g : Graph κ} {route : String} {entry : Entry} {content : κ}
    (h : g.find route = .ok (entry, content)) : g.arrival route = [.pushed ⟨entry, content⟩] := by
  rw [arrival, h]

namespace Controller

/-- The changes that a request comes to: a graph is attached, and its start is pushed if it is
found; a route is pushed if it is found; and a frame is dropped if there is one. -/
def changes (c : Controller κ) : Request κ → List (Event κ)
  | .attach g =>
    .attached g :: match g.start with
      | none => []
      | some route => g.arrival route
  | .navigate route =>
    match c.graph with
    | none => []
    | some g => g.arrival route
  | .pop => if c.stack.isEmpty then [] else [.dropped]

/-- The content that the flat machine shows when it has got here by an event: that of the frame on
top after a push, and after a drop that leaves one. -/
def shows (c : Controller κ) : Event κ → List (Event κ)
  | .pushed _ | .dropped => (c.stack.head?.map fun f => .shown f c.stack).toList
  | .attached _ | .shown .. => []

/-- The history of the flat machine that goes through some changes. -/
def narrate (c : Controller κ) : List (Event κ) → List (Event κ)
  | [] => []
  | e :: es => e :: (c.replay [e]).shows e ++ (c.replay [e]).narrate es

theorem narrate_attached (c : Controller κ) (g : Graph κ) (es : List (Event κ)) :
    c.narrate (.attached g :: es) = .attached g :: narrate ⟨some g, []⟩ es := rfl

theorem narrate_pushed (c : Controller κ) (f : Frame κ) :
    c.narrate [.pushed f] = [.pushed f, .shown f (f :: c.stack)] := rfl

theorem narrate_dropped (c : Controller κ) :
    c.narrate [.dropped] =
      .dropped :: (c.stack.tail.head?.map fun f => .shown f c.stack.tail).toList := by
  simp [narrate, replay, shows]

theorem replay_append (c : Controller κ) (es es' : List (Event κ)) :
    c.replay (es ++ es') = (c.replay es).replay es' := by
  induction es generalizing c with
  | nil => rfl
  | cons e es ih => cases e <;> exact ih _

theorem narrate_append (c : Controller κ) (es es' : List (Event κ)) :
    c.narrate (es ++ es') = c.narrate es ++ (c.replay es).narrate es' := by
  induction es generalizing c with
  | nil => rfl
  | cons e es ih =>
    have hreplay : c.replay (e :: es) = (c.replay [e]).replay es := replay_append c [e] es
    rw [List.cons_append, narrate, narrate, ih, hreplay, List.append_assoc, List.cons_append]

theorem filter_shows (c : Controller κ) (e : Event κ) : (c.shows e).filter Event.isChange = [] := by
  cases e <;> simp [shows, Event.isChange, List.filter_eq_nil_iff]

/-- The changes can be told from the history. -/
theorem filter_narrate (c : Controller κ) {es : List (Event κ)} (h : ∀ e ∈ es, e.isChange) :
    (c.narrate es).filter Event.isChange = es := by
  induction es generalizing c with
  | nil => rfl
  | cons e es ih =>
    rw [List.forall_mem_cons] at h
    rw [narrate, List.filter_append, List.filter_cons_of_pos h.1, filter_shows, ih _ h.2]
    rfl

end Controller

theorem Graph.isChange_of_mem_arrival {g : Graph κ} {route : String} {e : Event κ}
    (h : e ∈ g.arrival route) : e.isChange := by
  rw [arrival] at h
  split at h
  · cases h
  · obtain rfl := List.mem_singleton.1 h
    rfl

theorem Controller.isChange_of_mem_changes {c : Controller κ} {request : Request κ} {e : Event κ}
    (h : e ∈ c.changes request) : e.isChange := by
  cases request with
  | attach g =>
    obtain rfl | h := List.mem_cons.1 h
    · rfl
    · split at h
      · cases h
      · exact Graph.isChange_of_mem_arrival h
  | navigate route =>
    rw [changes] at h
    split at h
    · cases h
    · exact Graph.isChange_of_mem_arrival h
  | pop =>
    rw [changes] at h
    split at h
    · cases h
    · obtain rfl := List.mem_singleton.1 h
      rfl

/-! ## One request -/

/-- Whether what came of a request is some changes with the content shown after them, told in the
history, and nothing else. -/
structure Effect.Follows (x : Effect κ σ) (s : Session κ σ) (changes : List (Event κ)) : Prop where
  controller_eq : x.session.controller = s.controller.replay changes
  narrate_eq : s.controller.narrate changes =
    changes ++ (x.shown.map fun f => .shown f x.session.controller.stack).toList
  history_eq : x.session.history.reverse = s.history.reverse ++ s.controller.narrate changes

namespace Session

theorem follows_nil (s : Session κ σ) (reply : Reply) :
    Effect.Follows ⟨reply, s, none⟩ s [] :=
  ⟨rfl, rfl, (List.append_nil _).symm⟩

theorem follows_visit (s : Session κ σ) (route : String) :
    (s.visit route).Follows s (s.controller.changes (.navigate route)) := by
  rw [visit, Controller.changes]
  cases s.controller.graph with
  | none => exact s.follows_nil _
  | some g =>
    cases hfind : g.find route with
    | error e =>
      simp only [hfind, Graph.arrival_of_error hfind]
      exact s.follows_nil _
    | ok found =>
      simp only [hfind, Graph.arrival_of_ok hfind]
      exact ⟨rfl, rfl, by simp [pushed, shown, Controller.narrate_pushed]⟩

theorem follows_back (s : Session κ σ) : s.back.Follows s (s.controller.changes .pop) := by
  rw [back, Controller.changes]
  cases hstack : s.controller.stack with
  | nil => exact s.follows_nil _
  | cons top below =>
    cases below with
    | nil =>
      refine ⟨rfl, ?_, ?_⟩
      · simp [Controller.narrate_dropped, hstack]
      · simp [Controller.narrate_dropped, hstack, dropped]
    | cons f below =>
      refine ⟨rfl, ?_, ?_⟩
      · simp [Controller.narrate_dropped, hstack, dropped, shown]
      · simp [Controller.narrate_dropped, hstack, dropped, shown]

/-- What follows the attaching of a graph. -/
theorem follows_attached {s : Session κ σ} {g : Graph κ} {x : Effect κ σ}
    {changes : List (Event κ)} (h : x.Follows (s.attached g) changes) :
    x.Follows s (.attached g :: changes) := by
  refine ⟨h.controller_eq, ?_, ?_⟩
  · rw [Controller.narrate_attached, List.cons_append, ← h.narrate_eq]
    rfl
  · rw [Controller.narrate_attached, h.history_eq, attached, List.reverse_cons, List.append_assoc]
    rfl

/-- **A request comes to its changes, and the content that they show.** -/
theorem follows_respond (request : Request κ) (s : Session κ σ) :
    (s.respond request).Follows s (s.controller.changes request) := by
  cases request with
  | navigate route => exact s.follows_visit route
  | pop => exact s.follows_back
  | attach g =>
    rw [respond, Controller.changes]
    cases g.start with
    | none => exact follows_attached ((s.attached g).follows_nil _)
    | some route => exact follows_attached ((s.attached g).follows_visit route)

end Session

/-! ## Replies -/

/-- Whether a reply tells the changes: a route was found where it was pushed, and a frame removed
where one was dropped. -/
def Request.IsTold (changes : List (Event κ)) : Request κ → Reply → Prop
  | .attach g, reply => reply = .done ↔ g.start = none ∨ ∃ f, changes = [.attached g, .pushed f]
  | .navigate _, reply => reply = .done ↔ ∃ f, changes = [.pushed f]
  | .pop, reply => reply = .popped !changes.isEmpty

namespace Session

theorem reply_visit (s : Session κ σ) (route : String) :
    (s.visit route).reply = .done ↔
      ∃ f, s.controller.changes (.navigate route) = [.pushed f] := by
  rw [visit, Controller.changes]
  cases s.controller.graph with
  | none => simp
  | some g =>
    cases hfind : g.find route with
    | error e => simp [hfind, Graph.arrival_of_error hfind]
    | ok found => simp [hfind, Graph.arrival_of_ok hfind]

theorem isTold_respond (request : Request κ) (s : Session κ σ) :
    request.IsTold (s.controller.changes request) (s.respond request).reply := by
  cases request with
  | navigate route => exact s.reply_visit route
  | pop =>
    simp only [Request.IsTold, respond, back, Controller.changes]
    cases hstack : s.controller.stack with
    | nil => rfl
    | cons top below => cases below <;> rfl
  | attach g =>
    simp only [Request.IsTold, respond, Controller.changes]
    cases hstart : g.start with
    | none => simp
    | some route =>
      have hvisit : ((s.attached g).visit route).reply = .done ↔
          ∃ f, g.arrival route = [.pushed f] := (s.attached g).reply_visit route
      simpa using hvisit

/-- The reply is settled before content runs. -/
theorem reply_of_perform {behave : κ → Entry → Script κ σ} {fuel : Nat} {request : Request κ}
    {s s' : Session κ σ} {reply : Reply}
    (h : perform behave fuel request s = some (reply, s')) : reply = (s.respond request).reply := by
  cases fuel with
  | zero => cases h
  | succ fuel =>
    rw [perform_succ, Effect.finish] at h
    split at h
    · exact (Prod.mk.inj (Option.some.inj h)).1.symm
    · obtain ⟨s₁, -, heq⟩ := Option.map_eq_some_iff.1 h
      exact (Prod.mk.inj heq).1.symm

end Session

/-! ## Whole runs -/

namespace Moment

/-- The changes that the next step comes to: those of the request, if the script makes one. -/
def changes (m : Moment κ σ) : List (Event κ) :=
  match m.running with
  | .ask request _ => m.session.controller.changes request
  | _ => []

/-- Whether a run leads from one moment to another, and what happens in it: each request's changes,
and each frame whose content starts to run, with the stack at that moment. -/
inductive Runs (behave : κ → Entry → Script κ σ) :
    Moment κ σ → List (Event κ) → Moment κ σ → Prop
  | refl (m : Moment κ σ) : Runs behave m [] m
  | tail {m m₁ m₂ : Moment κ σ} {es : List (Event κ)} {shown : Option (Frame κ)} :
    Runs behave m es m₁ → m₁.next? behave = some (shown, m₂) →
      Runs behave m
        (es ++ (m₁.changes ++ (shown.map fun f => .shown f m₂.session.controller.stack).toList)) m₂

variable {behave : κ → Entry → Script κ σ}

theorem exists_runs_of_reaches {m m' : Moment κ σ} (h : Reaches behave m m') :
    ∃ es, Runs behave m es m' := by
  induction h with
  | refl => exact ⟨[], .refl m⟩
  | tail _ hnext ih =>
    obtain ⟨es, hruns⟩ := ih
    obtain ⟨shown, hnext⟩ := hnext
    exact ⟨_, hruns.tail hnext⟩

theorem isChange_of_mem_changes {m : Moment κ σ} {e : Event κ} (h : e ∈ m.changes) :
    e.isChange := by
  rw [changes] at h
  split at h
  · exact Controller.isChange_of_mem_changes h
  · cases h

/-- A step comes to its changes, and the content that they show. -/
theorem follows_next {m m' : Moment κ σ} {shown : Option (Frame κ)}
    (h : m.next? behave = some (shown, m')) :
    Effect.Follows ⟨.done, m'.session, shown⟩ m.session m.changes := by
  obtain ⟨s, running, waiting⟩ := m
  -- only a request touches the controller and the history
  cases running with
  | stop =>
    cases waiting with
    | nil => cases h
    | cons script waiting =>
      obtain ⟨rfl, rfl⟩ := Prod.mk.inj (Option.some.inj h)
      exact s.follows_nil _
  | look next =>
    obtain ⟨rfl, rfl⟩ := Prod.mk.inj (Option.some.inj h)
    exact s.follows_nil _
  | leave state next =>
    obtain ⟨rfl, rfl⟩ := Prod.mk.inj (Option.some.inj h)
    exact ⟨rfl, rfl, (List.append_nil _).symm⟩
  | ask request next =>
    obtain ⟨hcontroller, hnarrate, hhistory⟩ := s.follows_respond request
    cases hshown : (s.respond request).shown with
    | none =>
      simp only [next?, hshown] at h
      obtain ⟨rfl, rfl⟩ := Prod.mk.inj (Option.some.inj h)
      rw [hshown] at hnarrate
      exact ⟨hcontroller, hnarrate, hhistory⟩
    | some f =>
      simp only [next?, hshown] at h
      obtain ⟨rfl, rfl⟩ := Prod.mk.inj (Option.some.inj h)
      rw [hshown] at hnarrate
      exact ⟨hcontroller, hnarrate, hhistory⟩

/-- What happens in a run is what the flat machine tells of its changes. -/
theorem Runs.narrates {m m' : Moment κ σ} {es : List (Event κ)} (h : Runs behave m es m') :
    m'.session.controller = m.session.controller.replay (es.filter Event.isChange) ∧
      es = m.session.controller.narrate (es.filter Event.isChange) ∧
      m'.session.history.reverse = m.session.history.reverse ++ es := by
  -- on the run: the flat machine that has gone through the changes so far has the controller of
  -- the moment, so it tells the next step's changes as the step makes them
  induction h with
  | refl => exact ⟨rfl, rfl, (List.append_nil _).symm⟩
  | @tail m₁ m₂ es shown _ hnext ih =>
    obtain ⟨hcontroller, hnarrate, hhistory⟩ := ih
    obtain ⟨hcontroller', hnarrate', hhistory'⟩ := follows_next hnext
    have hstep : (m₁.session.controller.narrate m₁.changes).filter Event.isChange = m₁.changes :=
      Controller.filter_narrate _ fun _ => isChange_of_mem_changes
    simp only at hcontroller' hnarrate' hhistory'
    rw [← hnarrate', List.filter_append, hstep]
    refine ⟨?_, ?_, ?_⟩
    · rw [hcontroller', hcontroller, Controller.replay_append]
    · rw [Controller.narrate_append, ← hcontroller, ← hnarrate]
    · rw [hhistory', hhistory, List.append_assoc]

end Moment

/-- **A nested run is a run of the flat machine.** All that happens in it, at whatever depth, is in
its history in order: the changes of each request, and each start of content with the stack that it
finds. The flat machine that goes through the changes alone comes to the same graph and stack, and
shows the same content at the same places with the same stack. The reply to a request tells its own
changes and does not depend on content. -/
theorem nested_run_is_flat {behave : κ → Entry → Script κ σ} {driver : Script κ σ}
    {c : Controller κ} {state : σ} {fuel : Nat} {s : Session κ σ}
    (h : driver.run (Session.perform behave fuel) (.start c state) = some s) :
    Moment.Runs behave ⟨.start c state, driver, []⟩ s.history.reverse ⟨s, .stop, []⟩ ∧
      s.controller = c.replay (s.history.reverse.filter Event.isChange) ∧
      s.history.reverse = c.narrate (s.history.reverse.filter Event.isChange) ∧
      ∀ fuel request s₁ reply s₂, Session.perform behave fuel request s₁ = some (reply, s₂) →
        request.IsTold (s₁.controller.changes request) reply ∧
          ∀ (behave' : κ → Entry → Script κ σ) fuel' reply' s₂',
            Session.perform behave' fuel' request s₁ = some (reply', s₂') → reply' = reply := by
  obtain ⟨es, hruns⟩ :=
    Moment.exists_runs_of_reaches (Moment.reaches_stop_iff_run.2 ⟨fuel, h⟩)
  obtain ⟨hcontroller, hnarrate, hhistory⟩ := hruns.narrates
  obtain rfl : s.history.reverse = es := hhistory
  refine ⟨hruns, hcontroller, hnarrate, fun fuel request s₁ reply s₂ hperform => ?_⟩
  obtain rfl := Session.reply_of_perform hperform
  exact ⟨s₁.isTold_respond request, fun _ _ _ _ hother => Session.reply_of_perform hother⟩

/-- Two hops on the tour, one in the content of the other, and a pop that shows the inner one again,
which navigates on as before: five starts of content in one flat list. -/
theorem nested_run_is_flat_hop :
    let driver : Script TourScreen TourNotes :=
      match tourBuilder.build.1 with
      | .error _ => .stop
      | .ok graph =>
        .ask (.attach graph) fun _ =>
          .ask (.navigate "hop/home/1") fun _ => .ask .pop fun _ => .stop
    let depth? : Event TourScreen → Option Nat
      | .shown _ stack => some stack.length
      | _ => none
    ∃ s, driver.run (Session.perform TourScreen.behave 4) (.start .empty []) = some s ∧
      s.history.reverse.filterMap depth? = [1, 2, 3, 2, 3] ∧
      s.history.reverse =
        Controller.empty.narrate (s.history.reverse.filter Event.isChange) ∧
      s.controller = Controller.empty.replay (s.history.reverse.filter Event.isChange) := by
  intro driver depth?
  have hdepths : (driver.run (Session.perform TourScreen.behave 4) (.start .empty [])).map
      (fun s => s.history.reverse.filterMap depth?) = some [1, 2, 3, 2, 3] := by decide +kernel
  obtain ⟨s, hrun, hs⟩ := Option.map_eq_some_iff.1 hdepths
  obtain ⟨-, hcontroller, hnarrate, -⟩ := nested_run_is_flat hrun
  exact ⟨s, hrun, hs, hnarrate, hcontroller⟩

end ScreenRoutes
