import ScreenRoutes.Proofs.Value
import ScreenRoutes.Proofs.WrittenRoute

/-!
# Routes that a trigger sends

A call of a trigger gives each parameter a value of its type or leaves it out (`Trigger.Accepts`).
The route sent is the screen's route with `Parameter.sent` in place of the arguments
(`trigger_route`), so it has the same punctuation as the pattern.
-/

namespace ScreenRoutes

open Text

/-! ## Calls -/

/-- Whether a call may give the parameter what is given: a value of its type, or none unless it is
required. -/
def TriggerParam.Takes (q : TriggerParam) (given : Option Value) : Prop :=
  match given with
  | some v => v.type = q.type
  | none => q.default ≠ .required

instance (q : TriggerParam) (given : Option Value) : Decidable (q.Takes given) :=
  match given with
  | some v => inferInstanceAs (Decidable (v.type = q.type))
  | none => inferInstanceAs (Decidable (q.default ≠ .required))

def Trigger.Accepts (t : Trigger) (given : String → Option Value) : Prop :=
  ∀ q ∈ t.params, q.Takes (given q.name)

instance (t : Trigger) (given : String → Option Value) : Decidable (t.Accepts given) :=
  inferInstanceAs (Decidable (∀ q ∈ t.params, q.Takes (given q.name)))

/-! ## Parameters of a trigger -/

namespace Parameter

theorem triggerParam?_eq_some_iff {p : Parameter} {q : TriggerParam} :
    p.triggerParam? = some q ↔
      p.role.type? = some q.type ∧ q.name = p.name ∧ q.source = p.source ∧
        q.nullable = p.role.isNullable ∧ q.default = p.role.paramDefault := by
  obtain ⟨name, source, type, nullable, default⟩ := q
  rw [triggerParam?, Option.map_eq_some_iff]
  constructor
  · rintro ⟨t, ht, heq⟩
    cases heq
    exact ⟨ht, rfl, rfl, rfl, rfl⟩
  · rintro ⟨ht, rfl, rfl, rfl, rfl⟩
    exact ⟨type, ht, rfl⟩

theorem exists_triggerParam? {p : Parameter} (h : p.role.isRoutable) :
    ∃ q, p.triggerParam? = some q := by
  obtain ⟨type, htype⟩ := Option.isSome_iff_exists.1 h
  exact ⟨_, by rw [triggerParam?, htype, Option.map_some]⟩

/-- The value that a call sends for the parameter. -/
def sent? (given : String → Option Value) (p : Parameter) : Option Value :=
  p.triggerParam?.bind fun q => q.value? (given p.name)

/-- What a call writes in the place of the parameter. -/
def sent (given : String → Option Value) (p : Parameter) : String :=
  match p.sent? given with
  | some v => v.sent
  | none => ""

end Parameter

namespace Screen

theorem mem_trigger_params {s : Screen} {q : TriggerParam} :
    q ∈ s.trigger.params ↔ ∃ p ∈ s.params, p.triggerParam? = some q := by
  simp only [trigger, List.mem_filterMap, mem_routable]
  constructor
  · rintro ⟨p, ⟨hp, -⟩, hq⟩
    exact ⟨p, hp, hq⟩
  · rintro ⟨p, hp, hq⟩
    refine ⟨p, ⟨hp, ?_⟩, hq⟩
    obtain ⟨type, htype, -⟩ := Option.map_eq_some_iff.1 hq
    exact Option.isSome_of_mem htype

theorem trigger_params_names (s : Screen) :
    s.trigger.params.map (·.name) = s.routable.map (·.name) := by
  show (s.routable.filterMap Parameter.triggerParam?).map (·.name) = _
  rw [List.map_filterMap, ← List.filterMap_eq_map]
  refine List.filterMap_congr fun p hp => ?_
  obtain ⟨q, hq⟩ := p.exists_triggerParam? (mem_routable.1 hp).2
  rw [hq, Option.map_some, (Parameter.triggerParam?_eq_some_iff.1 hq).2.1]
  rfl

/-- A trigger finds a parameter under its name. -/
theorem find?_trigger_params {s : Screen} (h : (s.params.map (·.name)).Nodup) {p : Parameter}
    (hp : p ∈ s.routable) :
    s.trigger.params.find? (·.name == p.name) = p.triggerParam? := by
  obtain ⟨hmem, hroutable⟩ := mem_routable.1 hp
  obtain ⟨q, hq⟩ := p.exists_triggerParam? hroutable
  have hname := (Parameter.triggerParam?_eq_some_iff.1 hq).2.1
  rw [hq]
  cases hfind : s.trigger.params.find? (·.name == p.name) with
  | none =>
    have hno := List.find?_eq_none.1 hfind q (mem_trigger_params.2 ⟨p, hmem, hq⟩)
    exact absurd (beq_iff_eq.2 hname) hno
  | some q' =>
    obtain ⟨p', hmem', hq'⟩ := mem_trigger_params.1 (List.mem_of_find?_eq_some hfind)
    have hname' : p'.name = p.name := by
      rw [← (Parameter.triggerParam?_eq_some_iff.1 hq').2.1]
      simpa using List.find?_some hfind
    obtain rfl := List.inj_on_of_nodup_map h hmem' hmem hname'
    rw [← hq', hq]

end Screen

/-! ## The route sent -/

theorem concat_addText {f : PathPiece → String} (hf : ∀ t, f (.text t) = t) (t : String)
    (pieces : List PathPiece) :
    (concat ((addText t pieces).map f)).toList = t.toList ++ (concat (pieces.map f)).toList := by
  cases pieces with
  | nil => simp [addText, hf]
  | cons piece pieces => cases piece <;> simp [addText, hf]

/-- Joining neighbouring texts does not change what is written. -/
theorem concat_pathPieces {f : PathPiece → String} (hf : ∀ t, f (.text t) = t)
    {v : Parameter → String} (steps : List RouteStep)
    (hv : ∀ p, .path p ∈ steps ∨ .query p ∈ steps →
      ∃ piece, p.pathPiece? = some piece ∧ f piece = v p) :
    concat ((pathPieces steps).map f) = concat (steps.map (RouteStep.written v)) := by
  rw [← String.toList_inj]
  induction steps with
  | nil => rfl
  | cons step steps ih =>
    have ih := ih fun p hp => hv p (hp.imp (List.mem_cons_of_mem _) (List.mem_cons_of_mem _))
    cases step with
    | text t =>
      rw [pathPieces, concat_addText hf, ih]
      simp [RouteStep.written]
    | path p | query p =>
      obtain ⟨piece, hpiece, hfp⟩ := hv p (by simp)
      rw [pathPieces, hpiece]
      simp only [toList_concat] at ih
      simp [RouteStep.written, hfp, ih]

namespace Screen

theorem mem_carried_of_mem_walk {s : Screen} {p : Parameter}
    (h : .path p ∈ s.walk ∨ .query p ∈ s.walk) : p ∈ s.carried := by
  have hquery (lead : String) (ps : List Parameter) :
      .path p ∉ queryWalk lead ps ∧ (.query p ∈ queryWalk lead ps → p ∈ ps) := by
    induction ps generalizing lead with
    | nil => simp [queryWalk]
    | cons q ps ih =>
      simp only [queryWalk, List.mem_cons, reduceCtorEq, false_or, RouteStep.query.injEq]
      exact ⟨(ih "&").1, Or.imp_right (ih "&").2⟩
  rw [carried, List.mem_append]
  simp only [walk, routeWalk, List.mem_append, List.mem_cons, List.mem_flatMap, reduceCtorEq,
    List.not_mem_nil, false_or, or_false, RouteStep.path.injEq, (hquery _ _).1, and_false,
    exists_false] at h
  rcases h with ⟨q, hq, rfl⟩ | h
  · exact .inl hq
  · exact .inr ((hquery _ _).2 h)

/-- **A trigger writes its values where the pattern has placeholders.** -/
theorem trigger_route {s : Screen} (h : (s.params.map (·.name)).Nodup)
    (given : String → Option Value) :
    s.trigger.route given = s.written (Parameter.sent given) := by
  refine concat_pathPieces (fun _ => rfl) _ fun p hp => ?_
  have hroutable := mem_carried.1 (mem_carried_of_mem_walk hp)
  obtain ⟨type, htype⟩ := Option.isSome_iff_exists.1 (mem_routable.1 hroutable).2
  refine ⟨.value p.name type p.role.isNullable, by rw [Parameter.pathPiece?, htype]; rfl, ?_⟩
  rw [Trigger.sentPiece, find?_trigger_params h hroutable]
  rfl

end Screen

end ScreenRoutes
