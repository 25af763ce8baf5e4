import Mathlib.Logic.Relation
import ScreenRoutes.Controller.Basic

/-!
# Controllers step by step

A request has its whole effect on the controller, and its reply, before any content runs
(`Session.respond`, `serve_eq`). So a run can be taken apart into steps: a moment of a run is the
session, the script that is running, and the scripts that wait until the content they asked for has
come to its end. A script runs to its end exactly where the machine gets there
(`reaches_stop_iff_run`), but the machine also passes through everything in between, and through
runs without an end.
-/

namespace ScreenRoutes

variable {κ σ : Type}

/-! ## The effect of a request -/

/-- What a request comes to before content runs: the reply, the session, and the frame whose content
is about to run. -/
structure Effect (κ σ : Type) where
  reply : Reply
  session : Session κ σ
  shown : Option (Frame κ)

/-- The reply and the session after the content was run. -/
def Effect.finish (x : Effect κ σ) (display : Display κ σ) : Option (Reply × Session κ σ) :=
  match x.shown with
  | none => some (x.reply, x.session)
  | some f => (display f x.session).map fun s => (x.reply, s)

namespace Session

/-- Resolves a route and pushes its frame. -/
def visit (route : String) (s : Session κ σ) : Effect κ σ :=
  match s.controller.graph with
  | none => ⟨.failed .graphNotSet, s, none⟩
  | some g =>
    match g.find route with
    | .error e => ⟨.failed e, s, none⟩
    | .ok (entry, content) =>
      ⟨.done, (s.pushed ⟨entry, content⟩).shown ⟨entry, content⟩, some ⟨entry, content⟩⟩

/-- Drops the top frame. -/
def back (s : Session κ σ) : Effect κ σ :=
  match s.controller.stack with
  | [] => ⟨.popped false, s, none⟩
  | [_] => ⟨.popped true, s.dropped, none⟩
  | _ :: f :: _ => ⟨.popped true, s.dropped.shown f, some f⟩

/-- Carries out a request up to the content that it shows. -/
def respond (request : Request κ) (s : Session κ σ) : Effect κ σ :=
  match request with
  | .navigate route => s.visit route
  | .pop => s.back
  | .attach g =>
    match g.start with
    | some route => (s.attached g).visit route
    | none => ⟨.done, s.attached g, none⟩

theorem navigate_eq (display : Display κ σ) (route : String) (s : Session κ σ) :
    s.navigate display route = (s.visit route).finish display := by
  rw [navigate, visit]
  cases s.controller.graph with
  | none => rfl
  | some g =>
    cases hfind : g.find route with
    | error e => simp only [hfind, Effect.finish]
    | ok found => simp only [hfind, Effect.finish]

theorem pop_eq (display : Display κ σ) (s : Session κ σ) :
    s.pop display = s.back.finish display := by
  rw [pop, back]
  cases hstack : s.controller.stack with
  | nil => rfl
  | cons top below => cases below <;> rfl

/-- **A request is served by its own effect and then the content that it shows.** -/
theorem serve_eq (display : Display κ σ) (request : Request κ) (s : Session κ σ) :
    s.serve display request = (s.respond request).finish display := by
  cases request with
  | navigate route => exact navigate_eq display route s
  | pop => exact pop_eq display s
  | attach g =>
    rw [serve, respond]
    cases g.start with
    | none => rfl
    | some route => exact navigate_eq display route _

end Session

/-! ## Steps -/

/-- A moment of a run: the session, the running script, and the waiting scripts, the innermost
first. -/
structure Moment (κ σ : Type) where
  session : Session κ σ
  running : Script κ σ
  waiting : List (Script κ σ)

namespace Moment

/-- The next moment and the frame whose content starts to run with it, if one does; none at the end
of the run. -/
def next? (behave : κ → Entry → Script κ σ) :
    Moment κ σ → Option (Option (Frame κ) × Moment κ σ)
  | ⟨_, .stop, []⟩ => none
  | ⟨s, .stop, script :: waiting⟩ => some (none, ⟨s, script, waiting⟩)
  | ⟨s, .look next, waiting⟩ => some (none, ⟨s, next s.controller.depth s.state, waiting⟩)
  | ⟨s, .leave state next, waiting⟩ => some (none, ⟨{ s with state := state }, next, waiting⟩)
  | ⟨s, .ask request next, waiting⟩ =>
    let x := s.respond request
    match x.shown with
    | none => some (none, ⟨x.session, next x.reply, waiting⟩)
    | some f => some (some f, ⟨x.session, behave f.content f.entry, next x.reply :: waiting⟩)

/-- Whether one moment follows another. -/
def Precedes (behave : κ → Entry → Script κ σ) (m m' : Moment κ σ) : Prop :=
  ∃ shown, m.next? behave = some (shown, m')

/-- Whether a moment comes after another in a run, at once or later. -/
abbrev Reaches (behave : κ → Entry → Script κ σ) : Moment κ σ → Moment κ σ → Prop :=
  Relation.ReflTransGen (Precedes behave)

/-- **What one step keeps a whole run keeps.** -/
theorem Reaches.invariant {behave : κ → Entry → Script κ σ} {I : Moment κ σ → Prop}
    (hstep : ∀ m shown m', I m → m.next? behave = some (shown, m') → I m') {m m' : Moment κ σ}
    (h : Reaches behave m m') (hm : I m) : I m' := by
  induction h with
  | refl => exact hm
  | tail _ hnext ih =>
    obtain ⟨shown, hnext⟩ := hnext
    exact hstep _ shown _ ih hnext

end Moment

/-! ## Runs to the end -/

theorem Script.run_mono {p q : Request κ → Session κ σ → Option (Reply × Session κ σ)}
    (hpq : ∀ request s x, p request s = some x → q request s = some x) {script : Script κ σ}
    {s s' : Session κ σ} (h : script.run p s = some s') : script.run q s = some s' := by
  induction script generalizing s with
  | stop => exact h
  | ask request next ih =>
    rw [run] at h ⊢
    split at h
    · cases h
    · next reply s₁ hp =>
      rw [hpq request s _ hp]
      exact ih reply h
  | look next ih => exact ih s.controller.depth s.state h
  | leave state next ih => exact ih h

def Script.runAll (perform : Request κ → Session κ σ → Option (Reply × Session κ σ)) :
    List (Script κ σ) → Session κ σ → Option (Session κ σ)
  | [], s => some s
  | script :: scripts, s => (script.run perform s).bind (runAll perform scripts)

theorem Script.runAll_mono {p q : Request κ → Session κ σ → Option (Reply × Session κ σ)}
    (hpq : ∀ request s x, p request s = some x → q request s = some x)
    {scripts : List (Script κ σ)} {s s' : Session κ σ} (h : runAll p scripts s = some s') :
    runAll q scripts s = some s' := by
  induction scripts generalizing s with
  | nil => exact h
  | cons script scripts ih =>
    obtain ⟨s₁, hrun, hrest⟩ := Option.bind_eq_some_iff.1 h
    exact Option.bind_eq_some_iff.2 ⟨s₁, run_mono hpq hrun, ih hrest⟩

namespace Session

variable {behave : κ → Entry → Script κ σ}

theorem perform_succ (fuel : Nat) (request : Request κ) (s : Session κ σ) :
    perform behave (fuel + 1) request s =
      (s.respond request).finish fun f s =>
        (behave f.content f.entry).run (perform behave fuel) s :=
  serve_eq _ request s

/-- More fuel does not change what a request comes to. -/
theorem perform_mono {fuel : Nat} {request : Request κ} {s : Session κ σ}
    {x : Reply × Session κ σ} (h : perform behave fuel request s = some x) :
    perform behave (fuel + 1) request s = some x := by
  induction fuel generalizing request s x with
  | zero => cases h
  | succ fuel ih =>
    rw [perform_succ, Effect.finish] at h ⊢
    cases hshown : (s.respond request).shown with
    | none =>
      rw [hshown] at h
      exact h
    | some f =>
      rw [hshown] at h
      obtain ⟨s', hs', rfl⟩ := Option.map_eq_some_iff.1 h
      exact Option.map_eq_some_iff.2 ⟨s', Script.run_mono (fun _ _ _ hx => ih hx) hs', rfl⟩

end Session

namespace Moment

variable {behave : κ → Entry → Script κ σ}

/-- The session at the end of the run, if there is fuel enough. -/
def finish (behave : κ → Entry → Script κ σ) (fuel : Nat) (m : Moment κ σ) :
    Option (Session κ σ) :=
  Script.runAll (Session.perform behave fuel) (m.running :: m.waiting) m.session

/-- A script gets to its end as soon as its requests get to their replies. -/
theorem reaches_stop_of_run
    {p : Request κ → Session κ σ → Option (Reply × Session κ σ)} (waiting : List (Script κ σ))
    (hp : ∀ request next s reply s', p request s = some (reply, s') →
      Reaches behave ⟨s, .ask request next, waiting⟩ ⟨s', next reply, waiting⟩)
    {script : Script κ σ} {s s' : Session κ σ} (h : script.run p s = some s') :
    Reaches behave ⟨s, script, waiting⟩ ⟨s', .stop, waiting⟩ := by
  induction script generalizing s with
  | stop =>
    obtain rfl := Option.some.inj h
    exact .refl
  | ask request next ih =>
    rw [Script.run] at h
    split at h
    · cases h
    · next reply s₁ hperform => exact (hp request next s reply s₁ hperform).trans (ih reply h)
  | look next ih => exact .head ⟨none, rfl⟩ (ih _ _ h)
  | leave state next ih => exact .head ⟨none, rfl⟩ (ih h)

theorem reaches_of_perform {fuel : Nat} {request : Request κ} {s s' : Session κ σ} {reply : Reply}
    (h : Session.perform behave fuel request s = some (reply, s')) (next : Reply → Script κ σ)
    (waiting : List (Script κ σ)) :
    Reaches behave ⟨s, .ask request next, waiting⟩ ⟨s', next reply, waiting⟩ := by
  -- on the fuel, which bounds how deep the content shown is nested
  induction fuel generalizing request s s' reply next waiting with
  | zero => cases h
  | succ fuel ih =>
    rw [Session.perform_succ, Effect.finish] at h
    cases hshown : (s.respond request).shown with
    | none =>
      rw [hshown] at h
      obtain ⟨rfl, rfl⟩ := Prod.mk.inj (Option.some.inj h)
      exact .single ⟨none, by simp only [next?, hshown]⟩
    | some f =>
      rw [hshown] at h
      obtain ⟨s₁, hrun, heq⟩ := Option.map_eq_some_iff.1 h
      obtain ⟨rfl, rfl⟩ := Prod.mk.inj heq
      have hstart : Precedes behave ⟨s, .ask request next, waiting⟩
          ⟨(s.respond request).session, behave f.content f.entry,
            next (s.respond request).reply :: waiting⟩ :=
        ⟨some f, by simp only [next?, hshown]⟩
      have hcontent := reaches_stop_of_run (next (s.respond request).reply :: waiting)
        (fun _ next' _ _ _ hperform => ih hperform next' _) hrun
      exact (Relation.ReflTransGen.head hstart hcontent).tail ⟨none, rfl⟩

theorem finish_mono {fuel : Nat} {m : Moment κ σ} {s : Session κ σ}
    (h : m.finish behave fuel = some s) : m.finish behave (fuel + 1) = some s :=
  Script.runAll_mono (fun _ _ _ hx => Session.perform_mono hx) h

theorem finish_ask {fuel : Nat} {request : Request κ} {s s' : Session κ σ} {reply : Reply}
    (h : Session.perform behave fuel request s = some (reply, s')) (next : Reply → Script κ σ)
    (waiting : List (Script κ σ)) :
    finish behave fuel ⟨s, .ask request next, waiting⟩ =
      finish behave fuel ⟨s', next reply, waiting⟩ := by
  simp only [finish, Script.runAll, Script.run, h]

/-- Whatever gets to an end is run by some fuel. -/
theorem exists_finish_of_reaches {m : Moment κ σ} {s : Session κ σ}
    (h : Reaches behave m ⟨s, .stop, []⟩) : ∃ fuel, m.finish behave fuel = some s := by
  induction h using Relation.ReflTransGen.head_induction_on with
  | refl => exact ⟨0, rfl⟩
  | @head m m' hnext _ ih =>
    obtain ⟨shown, hnext⟩ := hnext
    obtain ⟨fuel, hfuel⟩ := ih
    obtain ⟨s₀, running, waiting⟩ := m
    cases running with
    | stop =>
      cases waiting with
      | nil => cases hnext
      | cons script waiting =>
        obtain ⟨-, rfl⟩ := Prod.mk.inj (Option.some.inj hnext)
        exact ⟨fuel, hfuel⟩
    | look next | leave state next =>
      obtain ⟨-, rfl⟩ := Prod.mk.inj (Option.some.inj hnext)
      exact ⟨fuel, hfuel⟩
    | ask request next =>
      refine ⟨fuel + 1, ?_⟩
      have hperform : Session.perform behave (fuel + 1) request s₀ = _ :=
        Session.perform_succ fuel request s₀
      cases hshown : (s₀.respond request).shown with
      | none =>
        simp only [next?, hshown, Option.some.injEq, Prod.mk.injEq] at hnext
        obtain ⟨-, rfl⟩ := hnext
        simp only [Effect.finish, hshown] at hperform
        rw [finish_ask hperform]
        exact finish_mono hfuel
      | some f =>
        simp only [next?, hshown, Option.some.injEq, Prod.mk.injEq] at hnext
        obtain ⟨-, rfl⟩ := hnext
        obtain ⟨s₁, hrun, hrest⟩ := Option.bind_eq_some_iff.1 hfuel
        simp only [Effect.finish, hshown, hrun, Option.map_some] at hperform
        rw [finish_ask hperform]
        exact finish_mono hrest

/-- **A script runs to its end exactly where the machine gets there.** -/
theorem reaches_stop_iff_run {script : Script κ σ} {s s' : Session κ σ} :
    Reaches behave ⟨s, script, []⟩ ⟨s', .stop, []⟩ ↔
      ∃ fuel, script.run (Session.perform behave fuel) s = some s' := by
  constructor
  · intro h
    obtain ⟨fuel, hfinish⟩ := exists_finish_of_reaches h
    obtain ⟨s₁, hrun, heq⟩ := Option.bind_eq_some_iff.1 hfinish
    obtain rfl := Option.some.inj heq
    exact ⟨fuel, hrun⟩
  · rintro ⟨fuel, hrun⟩
    exact reaches_stop_of_run []
      (fun _ next _ _ _ hperform => reaches_of_perform hperform next []) hrun

end Moment

end ScreenRoutes
