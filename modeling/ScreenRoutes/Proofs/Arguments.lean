import ScreenRoutes.Proofs.Graph
import ScreenRoutes.Proofs.Screen

/-!
# Declared arguments

A screen registers an argument for each of its routable parameters. These arguments are sound: a
default has the type of its argument, and only strings are nullable. The value of a sound argument
therefore has the declared type wherever it is there, and it is there unless the argument is
nullable (`Argument.IsSound.of_valueOf`).
-/

namespace ScreenRoutes

/-! ## Values of arguments -/

namespace Argument

/-- An argument has a value exactly where its text reads as one or, without a text, where a default
or nullability makes up for it. -/
theorem valueOf_eq_ok_iff {a : Argument} {route : String} {text : Option String}
    {v : Option Value} :
    a.valueOf route text = .ok v ↔
      (∃ t w, a.present? text = some t ∧ a.type.read? t = some w ∧ v = some w) ∨
        (a.present? text = none ∧ v = a.default ∧ (v = none → a.nullable)) := by
  rw [valueOf]
  cases hpresent : a.present? text with
  | some t =>
    cases hread : a.type.read? t with
    | none => simp [hread]
    | some w =>
      simp only [hread, Except.ok.injEq, reduceCtorEq, false_and, or_false]
      constructor
      · rintro rfl
        exact ⟨t, w, rfl, hread, rfl⟩
      · rintro ⟨t', w', ht, hread', rfl⟩
        obtain rfl := Option.some.inj ht
        rw [← hread', hread]
  | none =>
    cases hdefault : a.default with
    | some d =>
      simp only [Except.ok.injEq, reduceCtorEq, false_and, exists_false, true_and, false_or]
      constructor
      · rintro rfl
        exact ⟨rfl, nofun⟩
      · rintro ⟨rfl, -⟩
        rfl
    | none =>
      cases hnullable : a.nullable with
      | true => simp [eq_comm]
      | false =>
        simp only [Bool.false_eq_true, if_false, reduceCtorEq, false_and, exists_false, true_and,
          false_or, false_iff, imp_false, not_and, not_not]
        exact id

theorem present?_of_not_nullable {a : Argument} (h : a.nullable = false) (text : Option String) :
    a.present? text = text := by
  cases text <;> simp [present?, h]

/-- An argument that is fit for a route. -/
structure IsSound (a : Argument) : Prop where
  type_of_default : ∀ d, a.default = some d → d.type = a.type
  string_of_nullable : a.nullable → a.type = .string

/-- **A value has the declared type, and is there unless the argument is nullable.** -/
theorem IsSound.of_valueOf {a : Argument} (h : a.IsSound) {route : String} {text : Option String}
    {v : Option Value} (hv : a.valueOf route text = .ok v) :
    (∀ w, v = some w → w.type = a.type) ∧ (v = none → a.nullable) := by
  rcases valueOf_eq_ok_iff.1 hv with ⟨t, w, -, hread, rfl⟩ | ⟨-, rfl, hnullable⟩
  · refine ⟨?_, nofun⟩
    rintro _ ⟨⟩
    exact ArgType.type_of_read? hread
  · exact ⟨h.type_of_default, hnullable⟩

end Argument

/-! ## Arguments of a screen -/

theorem Role.type_of_default {r : Role} {t : ArgType} {d : Value} (ht : r.type? = some t)
    (hd : r.default? = some d) : d.type = t := by
  cases r with
  | handle => cases hd
  | string nullable default | int default | bool default =>
    obtain ⟨x, -, rfl⟩ := Option.map_eq_some_iff.1 hd
    exact Option.some.inj ht

theorem Role.string_of_isNullable {r : Role} {t : ArgType} (ht : r.type? = some t)
    (h : r.isNullable) : t = .string := by
  cases r with
  | string nullable default => exact (Option.some.inj ht).symm
  | handle | int default | bool default => cases h

namespace Parameter

variable {p : Parameter} {a : Argument}

theorem argument?_eq_some_iff :
    p.argument? = some a ↔
      p.role.type? = some a.type ∧ a.name = p.name ∧ a.nullable = p.role.isNullable ∧
        a.default = p.role.default? := by
  obtain ⟨name, type, nullable, default⟩ := a
  rw [argument?, Option.map_eq_some_iff]
  constructor
  · rintro ⟨t, ht, heq⟩
    cases heq
    exact ⟨ht, rfl, rfl, rfl⟩
  · rintro ⟨ht, rfl, rfl, rfl⟩
    exact ⟨type, ht, rfl⟩

theorem isSound_of_argument? (h : p.argument? = some a) : a.IsSound := by
  obtain ⟨htype, -, hnullable, hdefault⟩ := argument?_eq_some_iff.1 h
  refine ⟨fun d hd => ?_, fun hn => ?_⟩
  · exact p.role.type_of_default htype (hdefault.symm.trans hd)
  · exact p.role.string_of_isNullable htype (hnullable.symm.trans hn)

end Parameter

namespace Screen

variable {s : Screen}

theorem mem_registration_arguments {a : Argument} :
    a ∈ s.registration.arguments ↔ ∃ p ∈ s.routable, p.argument? = some a :=
  List.mem_filterMap

/-- The arguments have the names of the parameters that a route carries. -/
theorem registration_arguments_names (s : Screen) :
    s.registration.arguments.map (·.name) = s.routable.map (·.name) := by
  show (s.routable.filterMap Parameter.argument?).map (·.name) = _
  rw [List.map_filterMap, ← List.filterMap_eq_map]
  refine List.filterMap_congr fun p hp => ?_
  obtain ⟨type, htype⟩ := Option.isSome_iff_exists.1 (mem_routable.1 hp).2
  rw [Parameter.argument?, htype]
  rfl

theorem mem_registration_arguments_names {name : String} :
    name ∈ s.registration.arguments.map (·.name) ↔ name ∈ s.carried.map (·.name) := by
  simp only [registration_arguments_names, List.mem_map, mem_carried]

theorem registration_arguments_nodup (h : (s.params.map (·.name)).Nodup) :
    (s.registration.arguments.map (·.name)).Nodup := by
  rw [registration_arguments_names]
  exact filter_names_nodup h _

/-- What a screen's function reads from a route is one of its arguments. -/
theorem exists_argument_of_extract {name : String} {type : ArgType} {nullable : Bool}
    (h : .extract name type nullable ∈ s.registration.screen.arguments) :
    ∃ a ∈ s.registration.arguments,
      a.name = name ∧ a.type = type ∧ a.nullable = nullable ∧ a.IsSound := by
  obtain ⟨p, hp, hcall⟩ := List.mem_map.1 h
  rw [Parameter.callArgument] at hcall
  split at hcall
  · cases hcall
  · next t ht =>
    obtain ⟨rfl, rfl, rfl⟩ := CallArgument.extract.inj hcall
    have hargument : p.argument? = some ⟨p.name, t, p.role.isNullable, p.role.default?⟩ := by
      rw [Parameter.argument?, ht, Option.map_some]
    have hroutable : p ∈ s.routable := mem_routable.2 ⟨hp, Option.isSome_of_mem ht⟩
    exact ⟨_, mem_registration_arguments.2 ⟨p, hroutable, hargument⟩, rfl, rfl, rfl,
      Parameter.isSound_of_argument? hargument⟩

end Screen

end ScreenRoutes
