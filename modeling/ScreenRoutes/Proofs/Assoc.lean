import Mathlib.Data.List.Nodup
import ScreenRoutes.Assoc

/-!
# Looking up keys

Where no two elements of a list have the same key, the pairs made from it have under each key what
its own element gives (`lookup_filterMap`), which may be nothing. Putting a new key adds a pair at
the end, and putting or erasing a key leaves the others as they were.
-/

namespace ScreenRoutes

section Pairs

variable {α β : Type} {l : List α} {key : α → String}

/-- A key without a value is one that nothing is paired with. -/
theorem lookup_eq_none_iff_not_mem {pairs : List (String × β)} {name : String} :
    pairs.lookup name = none ↔ name ∉ pairs.map (·.1) := by
  rw [List.lookup_eq_none_iff, List.mem_map, not_exists]
  refine forall_congr' fun pair => ?_
  rw [not_and, bne_iff_ne, ne_comm]

theorem lookup_filterMap_of_not_mem {name : String} (h : name ∉ l.map key) (value : α → Option β) :
    (l.filterMap fun a => (value a).map (key a, ·)).lookup name = none := by
  rw [lookup_eq_none_iff_not_mem]
  intro hname
  obtain ⟨e, he, rfl⟩ := List.mem_map.1 hname
  obtain ⟨a, ha, he⟩ := List.mem_filterMap.1 he
  obtain ⟨v, -, rfl⟩ := Option.map_eq_some_iff.1 he
  exact h (List.mem_map_of_mem ha)

theorem lookup_filterMap (hkeys : (l.map key).Nodup) (value : α → Option β) {a : α} (ha : a ∈ l) :
    (l.filterMap fun a => (value a).map (key a, ·)).lookup (key a) = value a := by
  induction l with
  | nil => cases ha
  | cons a' l ih =>
    rw [List.map_cons, List.nodup_cons] at hkeys
    rw [List.filterMap_cons]
    rcases List.mem_cons.1 ha with rfl | ha
    · cases hv : value a with
      | none => exact lookup_filterMap_of_not_mem hkeys.1 value
      | some v => simp
    · have hne : (key a == key a') = false := by
        rw [beq_eq_false_iff_ne]
        exact fun heq => hkeys.1 (heq ▸ List.mem_map_of_mem ha)
      cases hv : value a' with
      | none => exact ih hkeys.2 ha
      | some v => simpa [List.lookup_cons, hne] using ih hkeys.2 ha

theorem lookup_map_of_mem {value : α → β} (hkeys : (l.map key).Nodup) {a : α} (ha : a ∈ l) :
    (l.map fun a => (key a, value a)).lookup (key a) = some (value a) := by
  have h := lookup_filterMap hkeys (fun a => some (value a)) ha
  simpa using h

/-- Where no key stands twice, a key has the value that it is paired with. -/
theorem lookup_eq_some_iff_mem {pairs : List (String × β)} (hkeys : (pairs.map (·.1)).Nodup)
    {name : String} {v : β} : pairs.lookup name = some v ↔ (name, v) ∈ pairs := by
  induction pairs with
  | nil => simp
  | cons pair pairs ih =>
    obtain ⟨other, w⟩ := pair
    rw [List.map_cons, List.nodup_cons] at hkeys
    rw [List.lookup_cons, List.mem_cons, Prod.mk.injEq]
    by_cases h : name = other
    · subst h
      have hrest : (name, v) ∉ pairs := fun hmem => hkeys.1 (List.mem_map.2 ⟨_, hmem, rfl⟩)
      simp [hrest, eq_comm]
    · have hother : (name == other) = false := beq_eq_false_iff_ne.2 h
      simp [hother, h, ih hkeys.2]

/-- Where no key stands twice, the order of the pairs does not count. -/
theorem lookup_perm {pairs pairs' : List (String × β)} (h : pairs.Perm pairs')
    (hkeys : (pairs.map (·.1)).Nodup) (name : String) :
    pairs.lookup name = pairs'.lookup name := by
  have hkeys' : (pairs'.map (·.1)).Nodup := (h.map _).nodup_iff.1 hkeys
  apply Option.ext
  intro v
  rw [lookup_eq_some_iff_mem hkeys, lookup_eq_some_iff_mem hkeys', h.mem_iff]

end Pairs

namespace Assoc

variable {α : Type} {name : String}

theorem lookup_erase {other : String} (h : name ≠ other) (pairs : List (String × α)) :
    (erase other pairs).lookup name = pairs.lookup name := by
  induction pairs with
  | nil => rfl
  | cons pair pairs ih =>
    rw [erase] at ih ⊢
    rw [List.filter_cons, List.lookup_cons]
    split
    · rw [List.lookup_cons, ih]
    · next hpair =>
      have hname : pair.1 = other := by simpa using hpair
      have hne : (name == pair.1) = false := by
        rw [beq_eq_false_iff_ne, hname]
        exact h
      rw [ih, hne]

theorem put_of_not_mem {pairs : List (String × α)} (h : name ∉ pairs.map (·.1)) (v : α) :
    put name v pairs = pairs ++ [(name, v)] := by
  induction pairs with
  | nil => rfl
  | cons pair pairs ih =>
    rw [List.map_cons, List.mem_cons, not_or] at h
    rw [put, if_neg (Ne.symm h.1), ih h.2, List.cons_append]

theorem keys_put_of_mem {pairs : List (String × α)} (h : name ∈ pairs.map (·.1)) (v : α) :
    (put name v pairs).map (·.1) = pairs.map (·.1) := by
  induction pairs with
  | nil => cases h
  | cons pair pairs ih =>
    rw [put]
    split
    · next heq => simp [heq]
    · next hne =>
      have hmem : name ∈ pairs.map (·.1) := by
        rcases List.mem_cons.1 h with heq | hmem
        · exact absurd heq.symm hne
        · exact hmem
      rw [List.map_cons, List.map_cons, ih hmem]

theorem lookup_put_self (v : α) (pairs : List (String × α)) :
    (put name v pairs).lookup name = some v := by
  induction pairs with
  | nil => rw [put, List.lookup_cons_self]
  | cons pair pairs ih =>
    rw [put]
    split
    · rw [List.lookup_cons_self]
    · next hne =>
      have hname : (name == pair.1) = false := beq_eq_false_iff_ne.2 (Ne.symm hne)
      rw [List.lookup_cons, hname, ih]

theorem lookup_put_of_ne {other : String} (h : other ≠ name) (v : α)
    (pairs : List (String × α)) : (put name v pairs).lookup other = pairs.lookup other := by
  have hother : (other == name) = false := beq_eq_false_iff_ne.2 h
  induction pairs with
  | nil => rw [put, List.lookup_cons, hother]
  | cons pair pairs ih =>
    rw [put]
    split
    · next heq => rw [List.lookup_cons, List.lookup_cons, heq, hother]
    · rw [List.lookup_cons, List.lookup_cons, ih]

/-- Putting what is there already changes nothing. -/
theorem put_of_lookup {v : α} {pairs : List (String × α)} (h : pairs.lookup name = some v) :
    put name v pairs = pairs := by
  induction pairs with
  | nil => cases h
  | cons pair pairs ih =>
    rw [put]
    split
    · next heq =>
      obtain rfl := heq
      rw [List.lookup_cons_self, Option.some.injEq] at h
      rw [← h]
    · next hne =>
      have hname : (name == pair.1) = false := beq_eq_false_iff_ne.2 (Ne.symm hne)
      rw [List.lookup_cons, hname] at h
      rw [ih h]

end Assoc

end ScreenRoutes
