import ScreenRoutes.Proofs.Arguments
import ScreenRoutes.Proofs.TriggerRoute

/-!
# What arrives of the values sent

A parameter's value arrives as it was given, or as the default where none was given. To a nullable
parameter an empty string is no value at all, since a route writes both as nothing
(`TriggerParam.kept`). What a screen's argument decodes to from the text sent is exactly this
(`valueOf_sent`), and whatever it decodes to arrives again when it is sent (`arrives?_of_valueOf`).
-/

namespace ScreenRoutes

open Text

/-! ## One parameter -/

/-- What counts of the value given: to a nullable parameter an empty string is as good as none. -/
def TriggerParam.kept (q : TriggerParam) (given : Option Value) : Option Value :=
  given.filter fun v => !(q.nullable && v == .string "")

/-- The value that arrives for the value given: what counts of it, or else the default. -/
def TriggerParam.arrives? (q : TriggerParam) (given : Option Value) : Option Value :=
  q.value? (q.kept given)

theorem Role.isRequired_iff {r : Role} (h : r.isRoutable) :
    r.isRequired ↔ r.paramDefault = .required := by
  rw [isRequired, isOptional, h, paramDefault]
  cases r.default? <;> cases r.isNullable <;> simp

namespace Parameter

variable {p : Parameter} {a : Argument} {q : TriggerParam}

/-- The argument and the trigger's parameter that a parameter gives rise to. -/
structure Yields (p : Parameter) (a : Argument) (q : TriggerParam) : Prop where
  argument : p.argument? = some a
  triggerParam : p.triggerParam? = some q

namespace Yields

variable (h : p.Yields a q)
include h

theorem argument_name : a.name = p.name :=
  (argument?_eq_some_iff.1 h.argument).2.1

theorem param_name : q.name = p.name :=
  (triggerParam?_eq_some_iff.1 h.triggerParam).2.1

theorem name_eq : a.name = q.name :=
  h.argument_name.trans h.param_name.symm

theorem isRequired_iff : p.role.isRequired ↔ q.default = .required := by
  obtain ⟨htype, -, -, -, hdefault⟩ := triggerParam?_eq_some_iff.1 h.triggerParam
  rw [Role.isRequired_iff (Option.isSome_of_mem htype), hdefault]

theorem type_eq : a.type = q.type := by
  have ha := (argument?_eq_some_iff.1 h.argument).1
  rw [(triggerParam?_eq_some_iff.1 h.triggerParam).1] at ha
  exact (Option.some.inj ha).symm

theorem nullable_eq : a.nullable = q.nullable :=
  (argument?_eq_some_iff.1 h.argument).2.2.1.trans
    (triggerParam?_eq_some_iff.1 h.triggerParam).2.2.2.1.symm

theorem not_nullable_of_isRequired (hrequired : p.role.isRequired) : a.nullable = false := by
  rw [(argument?_eq_some_iff.1 h.argument).2.2.1]
  have hoptional := Role.not_isOptional_of_isRequired hrequired
  rw [Role.isOptional, Role.isRoutable_of_isRequired hrequired, Bool.true_and,
    Bool.or_eq_false_iff] at hoptional
  exact hoptional.1

/-- A value left out is made up for by the argument's default. -/
theorem value?_eq (given : Option Value) : q.value? given = given.or a.default := by
  have hq := (triggerParam?_eq_some_iff.1 h.triggerParam).2.2.2.2
  rw [(argument?_eq_some_iff.1 h.argument).2.2.2, TriggerParam.value?, hq, Role.paramDefault]
  cases given <;> cases p.role.default? <;> cases p.role.isNullable <;> rfl

/-- Only a parameter with a default or a nullable one may be left out. -/
theorem takes_none_iff : q.Takes none ↔ (a.default = none → a.nullable) := by
  obtain ⟨-, -, hnullable, hdefault⟩ := argument?_eq_some_iff.1 h.argument
  have hq := (triggerParam?_eq_some_iff.1 h.triggerParam).2.2.2.2
  rw [TriggerParam.Takes, hq, hnullable, hdefault, Role.paramDefault]
  cases p.role.default? <;> cases p.role.isNullable <;> simp

/-- The text that is sent for a value decodes to what arrives of it. -/
theorem valueOf_sent {given : Option Value} (hgiven : q.Takes given) (route : String) :
    a.valueOf route (some ((q.value? given).elim "" Value.text)) = .ok (q.arrives? given) := by
  have hsound := isSound_of_argument? h.argument
  rw [Argument.valueOf_eq_ok_iff, TriggerParam.arrives?, h.value?_eq, h.value?_eq]
  cases hsent : given.or a.default with
  | none =>
    obtain ⟨rfl, hdefault⟩ := Option.or_eq_none_iff.1 hsent
    have hnullable := h.takes_none_iff.1 hgiven hdefault
    refine .inr ⟨?_, ?_, fun _ => hnullable⟩
    · simp [Argument.present?, hnullable]
    · simp [TriggerParam.kept]
  | some v =>
    have htype : v.type = a.type := by
      rcases Option.or_eq_some_iff.1 hsent with rfl | ⟨rfl, hdefault⟩
      · exact hgiven.trans h.type_eq.symm
      · exact hsound.type_of_default v hdefault
    have hisEmpty : v.text.isEmpty = (v == .string "") := by
      rw [Bool.eq_iff_iff, String.isEmpty_iff, beq_iff_eq, Value.text_eq_empty_iff]
    by_cases hempty : a.nullable && v == .string ""
    · -- the empty string is read as no text, and the default stands in for it
      rw [Bool.and_eq_true, beq_iff_eq] at hempty
      obtain ⟨hnullable, rfl⟩ := hempty
      have hkept : q.kept given = none := by
        rcases Option.or_eq_some_iff.1 hsent with rfl | ⟨rfl, -⟩
        · simp [TriggerParam.kept, ← h.nullable_eq, hnullable]
        · rfl
      refine .inr ⟨?_, by rw [hkept, Option.none_or], fun _ => hnullable⟩
      simp [Argument.present?, hnullable, Value.text]
    · rw [Bool.not_eq_true, ← Bool.not_eq_true'] at hempty
      have hkept : (q.kept given).or a.default = some v := by
        rcases Option.or_eq_some_iff.1 hsent with rfl | ⟨rfl, hdefault⟩
        · have hkeep : q.kept (some v) = some v := by
            simpa [TriggerParam.kept, ← h.nullable_eq] using hempty
          rw [hkeep, Option.some_or]
        · exact hdefault
      refine .inl ⟨v.text, v, ?_, ?_, hkept⟩
      · rw [Argument.present?, Option.elim_some, Option.filter_some, hisEmpty, if_pos hempty]
      · rw [← htype, Value.read?_text]

theorem type_of_arrives? {given : Option Value} (hgiven : q.Takes given) {v : Value}
    (hv : q.arrives? given = some v) : v.type = q.type := by
  have hsound := isSound_of_argument? h.argument
  have htype := (hsound.of_valueOf (h.valueOf_sent hgiven "")).1 v hv
  exact htype.trans h.type_eq

/-- What a text decodes to can be given again, and arrives as it is. -/
theorem arrives?_of_valueOf {route : String} {text : Option String} {v : Option Value}
    (hv : a.valueOf route text = .ok v) : q.Takes v ∧ q.arrives? v = v := by
  have hsound := isSound_of_argument? h.argument
  obtain ⟨htype, habsent⟩ := hsound.of_valueOf hv
  constructor
  · cases v with
    | none => exact h.takes_none_iff.2 fun _ => habsent rfl
    | some w => exact (htype w rfl).trans h.type_eq
  · rw [TriggerParam.arrives?, h.value?_eq]
    rcases Argument.valueOf_eq_ok_iff.1 hv with ⟨t, w, hpresent, hread, rfl⟩ | ⟨-, rfl, -⟩
    · have hkept : q.kept (some w) = some w := by
        obtain ⟨-, ht⟩ := Option.filter_eq_some_iff.1 hpresent
        rw [TriggerParam.kept, Option.filter_eq_some_iff, ← h.nullable_eq]
        refine ⟨rfl, ?_⟩
        cases hnullable : a.nullable with
        | false => rfl
        | true =>
          rw [hsound.string_of_nullable hnullable] at hread
          obtain rfl := Option.some.inj hread
          simpa [hnullable] using ht
      rw [hkept, Option.some_or]
    · cases hkept : q.kept a.default with
      | none => rw [Option.none_or]
      | some w => rw [Option.some_or, ← (Option.filter_eq_some_iff.1 hkept).1]

end Yields

end Parameter

namespace Screen

variable {s : Screen}

theorem exists_yields {p : Parameter} (hp : p ∈ s.routable) : ∃ a q, p.Yields a q := by
  obtain ⟨type, htype⟩ := Option.isSome_iff_exists.1 (mem_routable.1 hp).2
  refine ⟨⟨p.name, type, p.role.isNullable, p.role.default?⟩,
    ⟨p.name, p.source, type, p.role.isNullable, p.role.paramDefault⟩, ?_, ?_⟩
  · rw [Parameter.argument?, htype, Option.map_some]
  · rw [Parameter.triggerParam?, htype, Option.map_some]

theorem exists_yields_of_mem_params {q : TriggerParam} (hq : q ∈ s.trigger.params) :
    ∃ p ∈ s.routable, ∃ a, p.Yields a q := by
  obtain ⟨p, hp, hpq⟩ := List.mem_filterMap.1 hq
  obtain ⟨a, q', ha⟩ := exists_yields hp
  exact ⟨p, hp, a, ha.argument, hpq⟩

theorem exists_yields_of_mem_arguments {a : Argument} (ha : a ∈ s.registration.arguments) :
    ∃ p ∈ s.routable, ∃ q, p.Yields a q := by
  obtain ⟨p, hp, hpa⟩ := mem_registration_arguments.1 ha
  obtain ⟨a', q, hq⟩ := exists_yields hp
  exact ⟨p, hp, q, hpa, hq.triggerParam⟩

theorem mem_params_of_yields {p : Parameter} {a : Argument} {q : TriggerParam}
    (hp : p ∈ s.routable) (h : p.Yields a q) : q ∈ s.trigger.params :=
  List.mem_filterMap.2 ⟨p, hp, h.triggerParam⟩

theorem mem_arguments_of_yields {p : Parameter} {a : Argument} {q : TriggerParam}
    (hp : p ∈ s.routable) (h : p.Yields a q) : a ∈ s.registration.arguments :=
  List.mem_filterMap.2 ⟨p, hp, h.argument⟩

end Screen

end ScreenRoutes
