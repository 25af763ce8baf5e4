import Mathlib.Data.List.TakeWhile
import ScreenRoutes.Text.Cut

/-!
# Cutting what was joined

A text is cut at the first place where a character stands (`cut_eq_some_iff`), a brace is taken off
either end (`before?_eq_some_iff`), and a text that was joined from parts comes apart into them, the
first of which may itself be joined (`splitOn_intercalate_cons`).
-/

namespace ScreenRoutes.Text

/-! ## One cut -/

theorem cut_of_not_mem {c : Char} {cs : List Char} (h : c ∉ cs) : cut c cs = (cs, none) := by
  have hne : ∀ x ∈ cs, (x != c) = true := fun x hx => by
    rw [bne_iff_ne]
    rintro rfl
    exact h hx
  have htake : cs.takeWhile (· != c) = cs := List.takeWhile_eq_self_iff.2 hne
  have hdrop : cs.dropWhile (· != c) = [] := List.dropWhile_eq_nil_iff.2 hne
  rw [cut, htake, hdrop]
  rfl

theorem cut_append_cons {c : Char} {front : List Char} (h : c ∉ front) (rest : List Char) :
    cut c (front ++ c :: rest) = (front, some rest) := by
  have hne : ∀ x ∈ front, (x != c) = true := fun x hx => by
    rw [bne_iff_ne]
    rintro rfl
    exact h hx
  rw [cut, List.takeWhile_append_of_pos hne, List.dropWhile_append_of_pos hne]
  simp

theorem not_mem_cut (c : Char) (cs : List Char) : c ∉ (cut c cs).1 := by
  intro h
  have hne := List.mem_takeWhile_imp h
  simp at hne

/-- A text is what stands before the cut, and then the rest from the character on. -/
theorem append_cut (c : Char) (cs : List Char) :
    (cut c cs).1 ++ (cut c cs).2.elim [] (c :: ·) = cs := by
  by_cases h : c ∈ cs
  · obtain ⟨front, rest, rfl, hfront⟩ := List.eq_append_cons_of_mem h
    rw [cut_append_cons hfront, Option.elim_some]
  · rw [cut_of_not_mem h, Option.elim_none, List.append_nil]

theorem cut_eq_some_iff {c : Char} {cs front rest : List Char} :
    cut c cs = (front, some rest) ↔ c ∉ front ∧ cs = front ++ c :: rest := by
  constructor
  · intro h
    have hfront := not_mem_cut c cs
    have hjoin := append_cut c cs
    rw [h] at hfront hjoin
    exact ⟨hfront, hjoin.symm⟩
  · rintro ⟨hfront, rfl⟩
    exact cut_append_cons hfront rest

/-! ## Characters at either end -/

@[simp] theorem after?_nil (cs : List Char) : after? [] cs = some cs := by
  cases cs <;> rfl

theorem after?_cons_self (c : Char) (cs : List Char) : after? [c] (c :: cs) = some cs := by
  simp [after?]

theorem after?_of_not_mem {c : Char} {cs : List Char} (h : c ∉ cs) : after? [c] cs = none := by
  cases cs with
  | nil => rfl
  | cons x cs =>
    rw [List.mem_cons, not_or] at h
    simp [after?, h.1]

theorem before?_append_singleton (c : Char) (cs : List Char) : before? c (cs ++ [c]) = some cs := by
  induction cs with
  | nil => simp [before?]
  | cons x cs ih =>
    rw [List.cons_append, before?, ih]
    · rfl
    · simp

theorem after?_singleton_eq_some_iff {c : Char} {cs rest : List Char} :
    after? [c] cs = some rest ↔ cs = c :: rest := by
  cases cs with
  | nil => simp [after?]
  | cons x cs =>
    by_cases h : c = x
    · simp [after?, h]
    · simp [after?, h, Ne.symm h]

theorem before?_eq_some_iff {c : Char} {cs front : List Char} :
    before? c cs = some front ↔ cs = front ++ [c] := by
  constructor
  · intro h
    fun_induction before? c cs generalizing front with
    | case1 => cases h
    | case2 x hx =>
      obtain rfl := Option.some.inj h
      simpa using hx
    | case3 => cases h
    | case4 x cs hcs ih =>
      obtain ⟨front, hfront, rfl⟩ := Option.map_eq_some_iff.1 h
      rw [List.cons_append, ← ih hfront]
  · rintro rfl
    exact before?_append_singleton c front

/-! ## Joined texts -/

@[simp] theorem toList_concat (texts : List String) :
    (concat texts).toList = texts.flatMap String.toList :=
  String.toList_ofList

theorem splitOn_intercalate_cons {c : Char} (x : List Char) {xs : List (List Char)}
    (h : ∀ y ∈ xs, c ∉ y) : ([c].intercalate (x :: xs)).splitOn c = x.splitOn c ++ xs := by
  cases xs with
  | nil => simp
  | cons y ys =>
    have hsplit := List.splitOn_intercalate c h (by simp)
    rw [List.intercalate_cons_cons, List.append_assoc, List.singleton_append,
      List.splitOn_append_cons_self, hsplit]

/-- A part of a split text has characters of the text only. -/
theorem mem_of_mem_splitOn {c x : Char} {cs piece : List Char} (hpiece : piece ∈ cs.splitOn c)
    (hx : x ∈ piece) : x ∈ cs := by
  induction cs generalizing piece with
  | nil =>
    rw [List.splitOn_nil, List.mem_singleton] at hpiece
    exact hpiece ▸ hx
  | cons y cs ih =>
    rw [List.splitOn_cons_eq_if_modifyHead] at hpiece
    split at hpiece
    · rcases List.mem_cons.1 hpiece with rfl | hpiece
      · cases hx
      · exact List.mem_cons_of_mem _ (ih hpiece hx)
    · obtain ⟨first, rest, hfirst⟩ := List.exists_cons_of_ne_nil (List.splitOn_ne_nil c cs)
      rw [hfirst, List.modifyHead_cons, List.mem_cons] at hpiece
      rcases hpiece with rfl | hpiece
      · rcases List.mem_cons.1 hx with rfl | hx
        · exact List.mem_cons_self
        · exact List.mem_cons_of_mem _ (ih (hfirst ▸ List.mem_cons_self) hx)
      · exact List.mem_cons_of_mem _ (ih (hfirst ▸ List.mem_cons_of_mem _ hpiece) hx)

theorem not_mem_of_mem_splitOn {c : Char} {cs piece : List Char} (h : piece ∈ cs.splitOn c) :
    c ∉ piece := by
  induction cs generalizing piece with
  | nil =>
    rw [List.splitOn_nil, List.mem_singleton] at h
    exact h ▸ List.not_mem_nil
  | cons x cs ih =>
    rw [List.splitOn_cons_eq_if_modifyHead] at h
    split at h
    · rcases List.mem_cons.1 h with rfl | h
      · exact List.not_mem_nil
      · exact ih h
    · next hne =>
      obtain ⟨first, rest, hfirst⟩ := List.exists_cons_of_ne_nil (List.splitOn_ne_nil c cs)
      rw [hfirst, List.modifyHead_cons, List.mem_cons] at h
      rcases h with rfl | h
      · have hx : c ≠ x := fun heq => hne (by simp [heq])
        rw [List.mem_cons, not_or]
        exact ⟨hx, ih (hfirst ▸ List.mem_cons_self)⟩
      · exact ih (hfirst ▸ List.mem_cons_of_mem _ h)

theorem not_mem_intercalate {c sep : Char} {parts : List (List Char)} (hsep : c ≠ sep)
    (h : ∀ x ∈ parts, c ∉ x) : c ∉ [sep].intercalate parts := by
  induction parts with
  | nil => simp
  | cons x parts ih =>
    rw [List.forall_mem_cons] at h
    cases parts with
    | nil => simpa using h.1
    | cons y ys =>
      rw [List.intercalate_cons_cons, List.append_assoc, List.mem_append, List.singleton_append,
        List.mem_cons]
      rintro (hx | rfl | hrest)
      · exact h.1 hx
      · exact hsep rfl
      · exact ih h.2 hrest

end ScreenRoutes.Text
