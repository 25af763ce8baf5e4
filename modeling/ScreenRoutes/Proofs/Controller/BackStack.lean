import ScreenRoutes.Proofs.Controller.Machine
import ScreenRoutes.Proofs.Graph
import ScreenRoutes.Tour

/-!
# The back stack of a controller

Every frame on a controller's stack comes from the graph that is attached: it is what the graph
finds for the frame's own route (`Controller.Sound`). Attaching another graph clears the stack, so
every step keeps this (`sound_next`), and it holds at every moment of a run, also while requests
wait for the content that they show. Whatever content starts to run is that of the top frame.
-/

namespace ScreenRoutes

variable {κ σ : Type}

/-! ## Sound controllers -/

/-- Whether the frames on the stack are what the attached graph has for their routes. -/
structure Controller.Sound (c : Controller κ) : Prop where
  isSome_graph : c.stack ≠ [] → c.graph.isSome
  find_eq : ∀ g, c.graph = some g → ∀ f ∈ c.stack, g.find f.entry.route = .ok (f.entry, f.content)

/-- Whether the controller is sound, and whatever was shown so far was on top of the stack. -/
structure Session.Sound (s : Session κ σ) : Prop where
  controller : s.controller.Sound
  head?_of_shown : ∀ f stack, .shown f stack ∈ s.history → stack.head? = some f

namespace Session

theorem sound_start (state : σ) : (start (.empty : Controller κ) state).Sound :=
  ⟨⟨fun h => absurd rfl h, nofun⟩, nofun⟩

variable {s : Session κ σ} (h : s.Sound)
include h

theorem Sound.attached (g : Graph κ) : (s.attached g).Sound := by
  refine ⟨⟨fun _ => rfl, fun _ _ f hf => absurd hf List.not_mem_nil⟩, fun f stack hmem => ?_⟩
  obtain heq | hmem := List.mem_cons.1 hmem
  · cases heq
  · exact h.head?_of_shown f stack hmem

theorem Sound.pushed {g : Graph κ} (hg : s.controller.graph = some g) {f : Frame κ}
    (hf : g.find f.entry.route = .ok (f.entry, f.content)) : (s.pushed f).Sound := by
  refine ⟨⟨fun _ => Option.isSome_of_mem hg, fun g' hg' f' hf' => ?_⟩, fun f' stack hmem => ?_⟩
  · obtain rfl := Option.some.inj (hg.symm.trans hg')
    obtain rfl | hf' := List.mem_cons.1 hf'
    · exact hf
    · exact h.controller.find_eq g hg f' hf'
  · obtain heq | hmem := List.mem_cons.1 hmem
    · cases heq
    · exact h.head?_of_shown f' stack hmem

theorem Sound.dropped : s.dropped.Sound := by
  refine ⟨⟨fun hne => ?_, fun g hg f hf => ?_⟩, fun f stack hmem => ?_⟩
  · exact h.controller.isSome_graph fun hempty => hne (by rw [Session.dropped, hempty]; rfl)
  · exact h.controller.find_eq g hg f (List.mem_of_mem_tail hf)
  · obtain heq | hmem := List.mem_cons.1 hmem
    · cases heq
    · exact h.head?_of_shown f stack hmem

theorem Sound.shown {f : Frame κ} (hf : s.controller.stack.head? = some f) : (s.shown f).Sound := by
  refine ⟨h.controller, fun f' stack hmem => ?_⟩
  obtain heq | hmem := List.mem_cons.1 hmem
  · cases heq
    exact hf
  · exact h.head?_of_shown f' stack hmem

/-! ## Steps -/

/-- The controller stays sound up to the content that a request shows, which is on top. -/
theorem Sound.visit (route : String) :
    (s.visit route).session.Sound ∧
      ∀ f, (s.visit route).shown = some f →
        (s.visit route).session.controller.stack.head? = some f := by
  cases hg : s.controller.graph with
  | none =>
    simp only [Session.visit, hg]
    exact ⟨h, fun f hf => by cases hf⟩
  | some g =>
    cases hfind : g.find route with
    | error e =>
      simp only [Session.visit, hg, hfind]
      exact ⟨h, fun f hf => by cases hf⟩
    | ok found =>
      obtain ⟨entry, content⟩ := found
      have hroute : entry.route = route := by
        obtain ⟨d, captures, b, -, -, rfl, -⟩ := Graph.find_eq_ok_iff.1 hfind
        rfl
      have hpushed := h.pushed hg (f := ⟨entry, content⟩) (by rw [hroute]; exact hfind)
      simp only [Session.visit, hg, hfind]
      refine ⟨hpushed.shown rfl, fun f hf => ?_⟩
      obtain rfl := Option.some.inj hf
      rfl

theorem Sound.back :
    s.back.session.Sound ∧
      ∀ f, s.back.shown = some f → s.back.session.controller.stack.head? = some f := by
  cases hstack : s.controller.stack with
  | nil =>
    simp only [Session.back, hstack]
    exact ⟨h, fun f hf => by cases hf⟩
  | cons top below =>
    cases below with
    | nil =>
      simp only [Session.back, hstack]
      exact ⟨h.dropped, fun f hf => by cases hf⟩
    | cons f below =>
      have hhead : s.dropped.controller.stack.head? = some f := by
        rw [Session.dropped, hstack]
        rfl
      simp only [Session.back, hstack]
      refine ⟨h.dropped.shown hhead, fun f' hf' => ?_⟩
      obtain rfl := Option.some.inj hf'
      exact hhead

theorem Sound.respond (request : Request κ) :
    (s.respond request).session.Sound ∧
      ∀ f, (s.respond request).shown = some f →
        (s.respond request).session.controller.stack.head? = some f := by
  cases request with
  | navigate route => exact h.visit route
  | pop => exact h.back
  | attach g =>
    cases hstart : g.start with
    | none =>
      simp only [Session.respond, hstart]
      exact ⟨h.attached g, fun f hf => by cases hf⟩
    | some route =>
      simp only [Session.respond, hstart]
      exact (h.attached g).visit route

end Session

/-- A step keeps the session sound, and content that starts with it is that of the top frame. -/
theorem Moment.sound_next {behave : κ → Entry → Script κ σ} {m m' : Moment κ σ}
    {shown : Option (Frame κ)} (h : m.session.Sound) (hnext : m.next? behave = some (shown, m')) :
    m'.session.Sound ∧ ∀ f, shown = some f →
      m'.running = behave f.content f.entry ∧ m'.session.controller.stack.head? = some f := by
  obtain ⟨s, running, waiting⟩ := m
  cases running with
  | stop =>
    cases waiting with
    | nil => cases hnext
    | cons script waiting =>
      obtain ⟨rfl, rfl⟩ := Prod.mk.inj (Option.some.inj hnext)
      exact ⟨h, fun f hf => by cases hf⟩
  | look next =>
    obtain ⟨rfl, rfl⟩ := Prod.mk.inj (Option.some.inj hnext)
    exact ⟨h, fun f hf => by cases hf⟩
  | leave state next =>
    obtain ⟨rfl, rfl⟩ := Prod.mk.inj (Option.some.inj hnext)
    exact ⟨⟨h.controller, h.head?_of_shown⟩, fun f hf => by cases hf⟩
  | ask request next =>
    obtain ⟨hsound, htop⟩ := h.respond request
    cases hshown : (s.respond request).shown with
    | none =>
      simp only [next?, hshown] at hnext
      obtain ⟨rfl, rfl⟩ := Prod.mk.inj (Option.some.inj hnext)
      exact ⟨hsound, fun f hf => by cases hf⟩
    | some f =>
      simp only [next?, hshown] at hnext
      obtain ⟨rfl, rfl⟩ := Prod.mk.inj (Option.some.inj hnext)
      refine ⟨hsound, fun f' hf' => ?_⟩
      obtain rfl := Option.some.inj hf'
      exact ⟨rfl, htop f hshown⟩

/-! ## Whole runs -/

theorem Moment.sound_of_reaches {behave : κ → Entry → Script κ σ} {m m' : Moment κ σ}
    (h : m.session.Sound) (hreach : Reaches behave m m') : m'.session.Sound :=
  hreach.invariant (fun _ _ _ hm hnext => (sound_next hm hnext).1) h

/-- Whether a graph is attached as soon as there are entries, and resolves their routes to them. -/
def Controller.Resolves (c : Controller κ) : Prop :=
  c.stack ≠ [] →
    ∃ g, c.graph = some g ∧ ∀ f ∈ c.stack, g.resolve f.entry.route = .ok f.entry

theorem Controller.Sound.resolves {c : Controller κ} (h : c.Sound) : c.Resolves := by
  intro hne
  obtain ⟨g, hg⟩ := Option.isSome_iff_exists.1 (h.isSome_graph hne)
  refine ⟨g, hg, fun f hf => ?_⟩
  rw [Graph.resolve, h.find_eq g hg f hf]
  rfl

/-- **At every moment of a run the attached graph resolves the route of each entry on the stack to
that very entry, and content that starts to run is handed the entry on top.** The run starts from
the controller without a graph; `driver` may ask for anything, and so may content, however deep it
is nested. The same holds of what a run to its end leaves behind and of all that it showed. -/
theorem back_stack_sound (behave : κ → Entry → Script κ σ) (driver : Script κ σ) (state : σ) :
    (∀ m, Moment.Reaches behave ⟨.start .empty state, driver, []⟩ m →
      m.session.controller.Resolves ∧
        ∀ f m', m.next? behave = some (some f, m') →
          m'.running = behave f.content f.entry ∧
            m'.session.controller.current? = some f.entry) ∧
      ∀ fuel s, driver.run (Session.perform behave fuel) (.start .empty state) = some s →
        s.controller.Resolves ∧
          ∀ f stack, .shown f stack ∈ s.history → stack.head? = some f := by
  have hsound : ∀ m, Moment.Reaches behave ⟨.start .empty state, driver, []⟩ m → m.session.Sound :=
    fun m hreach => Moment.sound_of_reaches (Session.sound_start state) hreach
  constructor
  · intro m hreach
    have hm := hsound m hreach
    refine ⟨hm.controller.resolves, fun f m' hnext => ?_⟩
    obtain ⟨hrunning, htop⟩ := (Moment.sound_next hm hnext).2 f rfl
    exact ⟨hrunning, by rw [Controller.current?, htop, Option.map_some]⟩
  · intro fuel s hrun
    have hs := hsound _ (Moment.reaches_stop_iff_run.2 ⟨fuel, hrun⟩)
    exact ⟨hs.controller.resolves, hs.head?_of_shown⟩

/-- A hop on the tour, and a pop that shows the hop below again, which navigates on as before. -/
theorem back_stack_sound_hop :
    let graph : Graph TourScreen :=
      ⟨TourScreen.all.map fun t => ⟨t.screen.parts, t.screen.registration.arguments, t⟩, none⟩
    let driver : Script TourScreen TourNotes :=
      .ask (.attach graph) fun _ => .ask (.navigate "hop/home/1") fun _ => .ask .pop fun _ => .stop
    ∃ s, driver.run (Session.perform TourScreen.behave 4) (.start .empty []) = some s ∧
      s.controller.stack.map (·.entry.route) = ["home", "hop/home/0", "hop/home/1"] ∧
      s.controller.Resolves := by
  intro graph driver
  have hroutes : (driver.run (Session.perform TourScreen.behave 4) (.start .empty [])).map
      (fun s => s.controller.stack.map (·.entry.route)) =
        some ["home", "hop/home/0", "hop/home/1"] := by decide +kernel
  obtain ⟨s, hrun, hs⟩ := Option.map_eq_some_iff.1 hroutes
  exact ⟨s, hrun, hs, ((back_stack_sound TourScreen.behave driver []).2 4 s hrun).1⟩

end ScreenRoutes
