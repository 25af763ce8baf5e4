import Mathlib.Data.List.Nodup
import ScreenRoutes.CodeUnit
import ScreenRoutes.Proofs.Text.Cut

/-!
# Routes of a screen

A screen's pattern and the routes that its trigger sends come from one walk and differ only in what
stands for an argument. `Screen.written` is the walk's text with any texts in those places. It comes
apart at the first `?` into a path, which is joined by `/`, and a query, which is joined by `&`
(`cut_written`), as long as the names of the screen have no mark of a route in them (`WellNamed`).
-/

namespace ScreenRoutes

open Text

/-! ## Roles -/

namespace Role

theorem isRoutable_of_isRequired {r : Role} (h : r.isRequired) : r.isRoutable := by
  rw [isRequired, Bool.and_eq_true] at h
  exact h.1

theorem isRoutable_of_isOptional {r : Role} (h : r.isOptional) : r.isRoutable := by
  rw [isOptional, Bool.and_eq_true] at h
  exact h.1

theorem isRequired_or_isOptional {r : Role} (h : r.isRoutable) : r.isRequired ∨ r.isOptional := by
  rw [isRequired, h, Bool.true_and, Bool.not_eq_true']
  cases r.isOptional <;> simp

theorem not_isOptional_of_isRequired {r : Role} (h : r.isRequired) : r.isOptional = false := by
  rw [isRequired, Bool.and_eq_true, Bool.not_eq_true'] at h
  exact h.2

end Role

namespace Screen

theorem mem_required {s : Screen} {p : Parameter} :
    p ∈ s.required ↔ p ∈ s.params ∧ p.role.isRequired :=
  List.mem_filter

theorem mem_optional {s : Screen} {p : Parameter} :
    p ∈ s.optional ↔ p ∈ s.params ∧ p.role.isOptional :=
  List.mem_filter

theorem mem_routable {s : Screen} {p : Parameter} :
    p ∈ s.routable ↔ p ∈ s.params ∧ p.role.isRoutable :=
  List.mem_filter

/-- The arguments in the order in which a route carries them. -/
def carried (s : Screen) : List Parameter :=
  s.required ++ s.optional

theorem mem_carried {s : Screen} {p : Parameter} : p ∈ s.carried ↔ p ∈ s.routable := by
  rw [carried, List.mem_append, mem_required, mem_optional, mem_routable]
  constructor
  · rintro (⟨hp, hr⟩ | ⟨hp, ho⟩)
    · exact ⟨hp, p.role.isRoutable_of_isRequired hr⟩
    · exact ⟨hp, p.role.isRoutable_of_isOptional ho⟩
  · rintro ⟨hp, hr⟩
    exact (p.role.isRequired_or_isOptional hr).imp (⟨hp, ·⟩) (⟨hp, ·⟩)

theorem mem_params_of_carried {s : Screen} {p : Parameter} (hp : p ∈ s.carried) : p ∈ s.params :=
  (mem_routable.1 (mem_carried.1 hp)).1

end Screen

/-! ## Names -/

/-- The characters that a parameter's name must not have: each has a meaning in a route. -/
def routeMarks : List Char :=
  ['/', '?', '&', '\x7b', '\x7d', '=']

def IsFreeOf (marks : List Char) (text : String) : Prop :=
  ∀ c ∈ marks, c ∉ text.toList

instance (marks : List Char) (text : String) : Decidable (IsFreeOf marks text) :=
  List.decidableBAll (fun c => c ∉ text.toList) marks

/-- Parameters have names of their own that stand for themselves in a route, and the screen's route
has a name that ends neither at a query nor at a placeholder. -/
structure Screen.WellNamed (s : Screen) : Prop where
  route_ne_empty : s.route ≠ ""
  route_free : IsFreeOf ['?', '\x7b', '\x7d'] s.route
  names_nodup : (s.params.map (·.name)).Nodup
  name_ne_empty : ∀ p ∈ s.params, p.name ≠ ""
  name_free : ∀ p ∈ s.params, IsFreeOf routeMarks p.name

instance (s : Screen) : Decidable s.WellNamed :=
  decidable_of_iff
    (s.route ≠ "" ∧ IsFreeOf ['?', '\x7b', '\x7d'] s.route ∧ (s.params.map (·.name)).Nodup ∧
      (∀ p ∈ s.params, p.name ≠ "") ∧ ∀ p ∈ s.params, IsFreeOf routeMarks p.name)
    ⟨fun ⟨h1, h2, h3, h4, h5⟩ => ⟨h1, h2, h3, h4, h5⟩,
      fun ⟨h1, h2, h3, h4, h5⟩ => ⟨h1, h2, h3, h4, h5⟩⟩

namespace Screen

theorem filter_names_nodup {s : Screen} (h : (s.params.map (·.name)).Nodup) (f : Parameter → Bool) :
    ((s.params.filter f).map (·.name)).Nodup :=
  h.sublist (List.filter_sublist.map _)

/-- Required and optional arguments are told apart by name. -/
theorem carried_names_nodup {s : Screen} (h : (s.params.map (·.name)).Nodup) :
    (s.carried.map (·.name)).Nodup := by
  rw [carried, List.map_append, List.nodup_append]
  refine ⟨filter_names_nodup h _, filter_names_nodup h _, ?_⟩
  intro a ha b hb
  obtain ⟨p, hp, rfl⟩ := List.mem_map.1 ha
  obtain ⟨q, hq, rfl⟩ := List.mem_map.1 hb
  rw [mem_required] at hp
  rw [mem_optional] at hq
  intro hname
  obtain rfl := List.inj_on_of_nodup_map h hp.1 hq.1 hname
  rw [Role.not_isOptional_of_isRequired hp.2] at hq
  simp at hq

namespace WellNamed

variable {s : Screen} (h : s.WellNamed)
include h

theorem not_mem_name {p : Parameter} (hp : p ∈ s.carried) {c : Char} (hc : c ∈ routeMarks) :
    c ∉ p.name.toList :=
  h.name_free p (mem_params_of_carried hp) c hc

theorem carried_name_ne_empty {p : Parameter} (hp : p ∈ s.carried) : p.name ≠ "" :=
  h.name_ne_empty p (mem_params_of_carried hp)

end WellNamed

end Screen

end ScreenRoutes
