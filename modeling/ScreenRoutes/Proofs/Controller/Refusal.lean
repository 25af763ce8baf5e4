import ScreenRoutes.Proofs.Controller.BackStack
import ScreenRoutes.Proofs.Controller.FlatMachine

/-!
# Refused requests

A controller refuses a route that its graph does not resolve, a graph that does not resolve its own
start, and a pop of an empty stack (`Controller.Refuses`). A refused request shows nothing, and
leaves nothing behind but the graph that was to be attached (`respond_of_refuses`). What content
asks for is refused to the content: the reply to the request that showed it is settled before.
-/

namespace ScreenRoutes

variable {κ σ : Type}

/-! ## What is refused -/

/-- Whether a reply says that nothing was done. -/
def Reply.isRefusal : Reply → Bool
  | .failed _ | .popped false => true
  | .done | .popped true => false

/-- Whether a route leads nowhere from the controller, and why. -/
def Controller.Misses (c : Controller κ) (route : String) (e : NavigationError) : Prop :=
  c.graph = none ∧ e = .graphNotSet ∨ ∃ g, c.graph = some g ∧ g.resolve route = .error e

/-- Whether the controller refuses a request, and with which reply. -/
def Controller.Refuses (c : Controller κ) : Request κ → Reply → Prop
  | .navigate route, reply => ∃ e, c.Misses route e ∧ reply = .failed e
  | .attach g, reply =>
    ∃ route e, g.start = some route ∧ g.resolve route = .error e ∧ reply = .failed e
  | .pop, reply => c.stack = [] ∧ reply = .popped false

/-- What a refused request leaves behind: everything as it was, but for a graph to be attached. -/
def Session.refused (s : Session κ σ) : Request κ → Session κ σ
  | .attach g => s.attached g
  | .navigate _ | .pop => s

theorem Graph.resolve_eq_error_iff {g : Graph κ} {route : String} {e : NavigationError} :
    g.resolve route = .error e ↔ g.find route = .error e := by
  rw [resolve]
  cases g.find route with
  | error e' => simp [Except.map]
  | ok found => simp [Except.map]

/-- A graph just attached is the one that is searched. -/
theorem Session.misses_attached {s : Session κ σ} {g : Graph κ} {route : String}
    {e : NavigationError} :
    (s.attached g).controller.Misses route e ↔ g.resolve route = .error e := by
  simp [Controller.Misses, attached]

/-! ## One request -/

namespace Session

theorem visit_of_misses {s : Session κ σ} {route : String} {e : NavigationError}
    (h : s.controller.Misses route e) : s.visit route = ⟨.failed e, s, none⟩ := by
  obtain ⟨hnone, rfl⟩ | ⟨g, hg, hresolve⟩ := h
  · simp only [visit, hnone]
  · rw [Graph.resolve_eq_error_iff] at hresolve
    simp only [visit, hg, hresolve]

theorem misses_of_visit {s : Session κ σ} {route : String}
    (h : (s.visit route).reply.isRefusal) :
    ∃ e, s.controller.Misses route e ∧ (s.visit route).reply = .failed e := by
  cases hg : s.controller.graph with
  | none => exact ⟨.graphNotSet, .inl ⟨hg, rfl⟩, by simp only [visit, hg]⟩
  | some g =>
    cases hfind : g.find route with
    | error e =>
      refine ⟨e, .inr ⟨g, hg, Graph.resolve_eq_error_iff.2 hfind⟩, ?_⟩
      simp only [visit, hg, hfind]
    | ok found => simp [visit, hg, hfind, Reply.isRefusal] at h

/-- **A refused request shows nothing and changes nothing**, but a graph to be attached is. -/
theorem respond_of_refuses {request : Request κ} {s : Session κ σ} {reply : Reply}
    (h : s.controller.Refuses request reply) :
    s.respond request = ⟨reply, s.refused request, none⟩ := by
  cases request with
  | navigate route =>
    obtain ⟨e, hmisses, rfl⟩ := h
    exact visit_of_misses hmisses
  | pop =>
    obtain ⟨hempty, rfl⟩ := h
    simp only [respond, back, hempty, refused]
  | attach g =>
    obtain ⟨route, e, hstart, hresolve, rfl⟩ := h
    simp only [respond, hstart, refused]
    exact visit_of_misses (misses_attached.2 hresolve)

theorem refuses_of_respond {request : Request κ} {s : Session κ σ}
    (h : (s.respond request).reply.isRefusal) :
    s.controller.Refuses request (s.respond request).reply := by
  cases request with
  | navigate route => exact misses_of_visit h
  | pop =>
    cases hstack : s.controller.stack with
    | nil => exact ⟨hstack, by simp only [respond, back, hstack]⟩
    | cons top below =>
      -- one frame or more: there is something to drop
      cases below with
      | nil => simp [respond, back, hstack, Reply.isRefusal] at h
      | cons f below => simp [respond, back, hstack, Reply.isRefusal] at h
  | attach g =>
    cases hstart : g.start with
    | none => simp [respond, hstart, Reply.isRefusal] at h
    | some route =>
      simp only [respond, hstart] at h ⊢
      obtain ⟨e, hmisses, hreply⟩ := misses_of_visit h
      exact ⟨route, e, hstart, misses_attached.1 hmisses, hreply⟩

variable {behave : κ → Entry → Script κ σ}

/-- A refused request comes to its reply with any fuel at all, since no content runs. -/
theorem perform_of_refuses {request : Request κ} {s : Session κ σ} {reply : Reply}
    (h : s.controller.Refuses request reply) (fuel : Nat) :
    perform behave (fuel + 1) request s = some (reply, s.refused request) := by
  rw [perform_succ, respond_of_refuses h, Effect.finish]

theorem refuses_of_perform {fuel : Nat} {request : Request κ} {s s' : Session κ σ} {reply : Reply}
    (h : perform behave fuel request s = some (reply, s')) (hrefusal : reply.isRefusal) :
    s.controller.Refuses request reply := by
  obtain rfl := reply_of_perform h
  exact refuses_of_respond hrefusal

theorem eq_refused_of_perform {fuel : Nat} {request : Request κ} {s s' : Session κ σ}
    {reply : Reply} (h : perform behave fuel request s = some (reply, s'))
    (hrefusal : reply.isRefusal) : s' = s.refused request := by
  cases fuel with
  | zero => cases h
  | succ fuel =>
    rw [perform_of_refuses (refuses_of_perform h hrefusal)] at h
    exact (Prod.mk.inj (Option.some.inj h)).2.symm

/-- A request comes to a refusal exactly where the controller refuses it. -/
theorem exists_perform_iff_refuses {request : Request κ} {s : Session κ σ} {reply : Reply}
    (hrefusal : reply.isRefusal) :
    (∃ fuel s', perform behave fuel request s = some (reply, s')) ↔
      s.controller.Refuses request reply := by
  constructor
  · rintro ⟨fuel, s', h⟩
    exact refuses_of_perform h hrefusal
  · intro h
    exact ⟨1, _, perform_of_refuses h 0⟩

end Session

/-! ## What refusals leave behind -/

/-- **When a controller refuses, and what is left then.** A route is refused exactly where no graph
is attached or the attached one does not resolve it, and a pop exactly where the stack is empty; in
both cases the whole session stays as it was, so no content has run. A graph is refused exactly
where it names a start that it does not resolve itself; it is attached all the same, to an empty
stack, and nothing else happens. Replies do not depend on content: whatever content does, and
whatever it is refused, the request that showed it has the same reply. -/
theorem refusals_show_nothing (behave : κ → Entry → Script κ σ) (s : Session κ σ) :
    (∀ route e,
      ((∃ fuel s', Session.perform behave fuel (.navigate route) s = some (.failed e, s')) ↔
        s.controller.graph = none ∧ e = .graphNotSet ∨
          ∃ g, s.controller.graph = some g ∧ g.resolve route = .error e) ∧
      ∀ fuel s', Session.perform behave fuel (.navigate route) s = some (.failed e, s') → s' = s) ∧
    (((∃ fuel s', Session.perform behave fuel .pop s = some (.popped false, s')) ↔
        s.controller.stack = []) ∧
      ∀ fuel s', Session.perform behave fuel .pop s = some (.popped false, s') → s' = s) ∧
    (∀ g e,
      ((∃ fuel s', Session.perform behave fuel (.attach g) s = some (.failed e, s')) ↔
        ∃ route, g.start = some route ∧ g.resolve route = .error e) ∧
      ∀ fuel s', Session.perform behave fuel (.attach g) s = some (.failed e, s') →
        s' = ⟨⟨some g, []⟩, s.state, .attached g :: s.history⟩) ∧
    ∀ request fuel reply s', Session.perform behave fuel request s = some (reply, s') →
      (reply.isRefusal → s' = s.refused request) ∧
      ∀ (behave' : κ → Entry → Script κ σ) fuel' reply' s'',
        Session.perform behave' fuel' request s = some (reply', s'') → reply' = reply := by
  refine ⟨fun route e => ⟨?_, fun fuel s' h => ?_⟩, ⟨?_, fun fuel s' h => ?_⟩,
    fun g e => ⟨?_, fun fuel s' h => ?_⟩, fun request fuel reply s' h => ⟨?_, ?_⟩⟩
  · rw [Session.exists_perform_iff_refuses rfl]
    simp [Controller.Refuses, Controller.Misses]
  · exact Session.eq_refused_of_perform h rfl
  · rw [Session.exists_perform_iff_refuses rfl]
    simp [Controller.Refuses]
  · exact Session.eq_refused_of_perform h rfl
  · rw [Session.exists_perform_iff_refuses rfl]
    simp [Controller.Refuses]
  · exact Session.eq_refused_of_perform h rfl
  · exact Session.eq_refused_of_perform h
  · intro behave' fuel' reply' s'' h'
    rw [Session.reply_of_perform h, Session.reply_of_perform h']

/-- A hop on the tour whose content asks for a route that leads nowhere: the content is refused and
notes it, the hop is not. Asked for directly, the route is refused and nothing changes. -/
theorem refusals_show_nothing_hop :
    let graph : Graph TourScreen :=
      ⟨TourScreen.all.map fun t => ⟨t.screen.parts, t.screen.registration.arguments, t⟩, none⟩
    let s : Session TourScreen TourNotes := (Session.start .empty []).attached graph
    let hop : Request TourScreen := .navigate "hop/nowhere/0"
    let noted? : TourNote → Option Reply
      | .hopped _ reply => some reply
      | .shown .. => none
    (∃ s', Session.perform TourScreen.behave 4 hop s = some (.done, s') ∧
      s'.state.filterMap noted? = [.failed (.routeNotFound "nowhere")]) ∧
    (∃ fuel s', Session.perform TourScreen.behave fuel (.navigate "nowhere") s =
      some (.failed (.routeNotFound "nowhere"), s')) ∧
    ∀ fuel s', Session.perform TourScreen.behave fuel (.navigate "nowhere") s =
      some (.failed (.routeNotFound "nowhere"), s') → s' = s := by
  intro graph s hop noted?
  have hhop : (Session.perform TourScreen.behave 4 hop s).map
      (fun x => (x.1, x.2.state.filterMap noted?)) =
        some (.done, [.failed (.routeNotFound "nowhere")]) := by decide +kernel
  have hnowhere : graph.resolve "nowhere" = .error (.routeNotFound "nowhere") := by decide +kernel
  obtain ⟨hnavigate, -⟩ := refusals_show_nothing TourScreen.behave s
  obtain ⟨hiff, hsame⟩ := hnavigate "nowhere" (.routeNotFound "nowhere")
  obtain ⟨⟨reply, s'⟩, hs', heq⟩ := Option.map_eq_some_iff.1 hhop
  obtain ⟨rfl, hnotes⟩ := Prod.mk.inj heq
  exact ⟨⟨s', hs', hnotes⟩, hiff.2 (.inr ⟨graph, rfl, hnowhere⟩), hsame⟩

end ScreenRoutes
