import ScreenRoutes.OutputPath
import ScreenRoutes.Proofs.Text.Cut

/-!
# Parts of joined paths

A path that is appended to another replaces it where it is absolute (`isAbsolute_joinPath`); else its
named parts come behind those of the other (`namedParts_joinPath`). A path that is joined from single
steps, each a name without a slash, has these steps for its parts (`pathParts_foldl_joinPath`), wherever
it is appended (`pathParts_joinPath`).
-/

namespace ScreenRoutes

open Text

/-! ## Where a path starts -/

/-- Whether a path starts at the root. -/
def IsAbsolute (path : String) : Prop :=
  path.toList.head? = some '/'

instance (path : String) : Decidable (IsAbsolute path) :=
  inferInstanceAs (Decidable (_ = _))

/-- The root or the dot that a path starts with. -/
def pathLead : List Char → List String
  | '/' :: _ => ["/"]
  | ['.'] => ["."]
  | '.' :: '/' :: _ => ["."]
  | _ => []

theorem pathParts_eq (path : String) :
    pathParts path = pathLead path.toList ++ namedParts path.toList :=
  rfl

theorem pathLead_of_ne {c : Char} {cs : List Char} (hslash : c ≠ '/') (hdot : c ≠ '.') :
    pathLead (c :: cs) = [] := by
  rw [pathLead.eq_def]
  split
  · next h => exact absurd (List.cons.inj h).1 hslash
  · next h => exact absurd (List.cons.inj h).1 hdot
  · next h => exact absurd (List.cons.inj h).1 hdot
  · rfl

theorem pathLead_of_dot {c : Char} {cs : List Char} (hslash : c ≠ '/') :
    pathLead ('.' :: c :: cs) = [] := by
  rw [pathLead.eq_def]
  split
  · next h => cases h
  · next h => cases h
  · next h => exact absurd (List.cons.inj (List.cons.inj h).2).1 hslash
  · rfl

/-- What a path starts with is told in front of any slash but the first character. -/
theorem pathLead_append_slash {cs : List Char} (h : cs ≠ []) (rest : List Char) :
    pathLead (cs ++ '/' :: rest) = pathLead cs := by
  obtain ⟨c, cs, rfl⟩ := List.exists_cons_of_ne_nil h
  by_cases hslash : c = '/'
  · rw [hslash]
    rfl
  · by_cases hdot : c = '.'
    · rw [hdot]
      cases cs with
      | nil => rfl
      | cons d cs =>
        by_cases hd : d = '/'
        · rw [hd]
          rfl
        · rw [pathLead_of_dot hd]
          exact pathLead_of_dot hd
    · rw [pathLead_of_ne hslash hdot]
      exact pathLead_of_ne hslash hdot

theorem isAbsolute_iff_pathLead {path : String} :
    IsAbsolute path ↔ pathLead path.toList = ["/"] := by
  rw [IsAbsolute, pathLead.eq_def]
  split
  · next h => simp [h]
  · next h => simp [h]
  · next h => simp [h]
  · next hroot _ _ =>
    constructor
    · intro h
      obtain ⟨cs, hcs⟩ := List.head?_eq_some_iff.1 h
      exact absurd hcs (hroot cs)
    · nofun

theorem pathLead_cases (cs : List Char) :
    pathLead cs = [] ∨ pathLead cs = ["."] ∨ pathLead cs = ["/"] := by
  rw [pathLead.eq_def]
  split <;> simp

/-! ## Named parts -/

theorem namedParts_append_slash (xs ys : List Char) :
    namedParts (xs ++ '/' :: ys) = namedParts xs ++ namedParts ys := by
  simp only [namedParts, splitPath, List.splitOn_append_cons_self, List.map_append,
    List.filter_append]

theorem mem_namedParts {cs : List Char} {part : String} :
    part ∈ namedParts cs ↔ part ∈ splitPath cs ∧ ¬ isIdlePart part := by
  rw [namedParts, List.mem_filter, Bool.not_eq_true']
  simp only [Bool.not_eq_true]

theorem not_mem_slash_of_mem_splitPath {cs : List Char} {part : String} (h : part ∈ splitPath cs) :
    '/' ∉ part.toList := by
  obtain ⟨piece, hpiece, rfl⟩ := List.mem_map.1 h
  rw [String.toList_ofList]
  exact not_mem_of_mem_splitOn hpiece

/-- No part of a path that is not absolute has a slash in it. -/
theorem not_mem_slash_of_mem_pathParts {path part : String} (habsolute : ¬ IsAbsolute path)
    (h : part ∈ pathParts path) : '/' ∉ part.toList := by
  rw [isAbsolute_iff_pathLead] at habsolute
  rw [pathParts_eq, List.mem_append] at h
  rcases h with h | h
  · rcases pathLead_cases path.toList with hlead | hlead | hlead
    · rw [hlead] at h
      cases h
    · rw [hlead, List.mem_singleton] at h
      rw [h]
      decide
    · exact absurd hlead habsolute
  · exact not_mem_slash_of_mem_splitPath (mem_namedParts.1 h).1

/-! ## Joined paths -/

@[simp] theorem joinPath_empty (more : String) : joinPath "" more = more := by
  rw [joinPath.eq_def]
  split
  · rfl
  · rfl
  · next h _ => cases h
  · next h _ => cases h

theorem joinPath_of_isAbsolute (base : String) {more : String} (h : IsAbsolute more) :
    joinPath base more = more := by
  obtain ⟨cs, hcs⟩ := List.head?_eq_some_iff.1 h
  rw [joinPath.eq_def]
  split
  · rfl
  · rfl
  · next hmore => exact absurd hcs (hmore cs)
  · next hmore => exact absurd hcs (hmore cs)

/-- A path is appended behind one slash, which is there already or put in. -/
theorem exists_toList_joinPath {base more : String} (hbase : base ≠ "") (hmore : ¬ IsAbsolute more) :
    ∃ front, (joinPath base more).toList = front ++ '/' :: more.toList ∧
      (base.toList = front ∨ base.toList = front ++ ['/']) := by
  rw [joinPath.eq_def]
  split
  · next h =>
    rw [IsAbsolute, h] at hmore
    exact absurd rfl hmore
  · next h _ =>
    rw [List.getLast?_eq_none_iff] at h
    exact absurd (by simpa using h) hbase
  · next h _ =>
    obtain ⟨front, hfront⟩ := List.getLast?_eq_some_iff.1 h
    exact ⟨front, by simp [hfront], .inr hfront⟩
  · exact ⟨base.toList, by simp, .inl rfl⟩

/-- **A joined path is absolute where either of the two is.** -/
theorem isAbsolute_joinPath {base more : String} :
    IsAbsolute (joinPath base more) ↔ IsAbsolute base ∨ IsAbsolute more := by
  by_cases hmore : IsAbsolute more
  · simp [joinPath_of_isAbsolute base hmore, hmore]
  · by_cases hbase : base = ""
    · simp [hbase, IsAbsolute]
    · obtain ⟨front, hjoin, hfront⟩ := exists_toList_joinPath hbase hmore
      have hhead : (joinPath base more).toList.head? = base.toList.head? := by
        rcases hfront with hfront | hfront
        · obtain ⟨c, cs, hcs⟩ := List.exists_cons_of_ne_nil (l := base.toList) (by simpa using hbase)
          rw [hjoin, ← hfront, hcs, List.cons_append, List.head?_cons, List.head?_cons]
        · rw [hjoin, hfront, List.head?_append, List.head?_append]
          rfl
      rw [IsAbsolute, hhead, ← IsAbsolute]
      simp [hmore]

theorem isAbsolute_foldl_joinPath {paths : List String} {base : String} :
    IsAbsolute (paths.foldl joinPath base) ↔ IsAbsolute base ∨ ∃ path ∈ paths, IsAbsolute path := by
  induction paths generalizing base with
  | nil => simp
  | cons path paths ih =>
    rw [List.foldl_cons, ih, isAbsolute_joinPath]
    simp [or_assoc]

theorem namedParts_of_front {base : String} {front : List Char}
    (h : base.toList = front ∨ base.toList = front ++ ['/']) :
    namedParts base.toList = namedParts front := by
  rcases h with h | h
  · rw [h]
  · have hnil : namedParts [] = [] := by decide
    rw [h, namedParts_append_slash, hnil, List.append_nil]

/-- **The named parts of a path that is appended come last**, and are all there is where it is
absolute. -/
theorem namedParts_joinPath (base more : String) :
    namedParts (joinPath base more).toList =
      (if IsAbsolute more then [] else namedParts base.toList) ++ namedParts more.toList := by
  by_cases hmore : IsAbsolute more
  · rw [joinPath_of_isAbsolute base hmore, if_pos hmore, List.nil_append]
  · rw [if_neg hmore]
    by_cases hbase : base = ""
    · have hnil : namedParts "".toList = [] := by decide
      rw [hbase, joinPath_empty, hnil, List.nil_append]
    · obtain ⟨front, hjoin, hfront⟩ := exists_toList_joinPath hbase hmore
      rw [hjoin, namedParts_append_slash, namedParts_of_front hfront]

/-- **The parts of a joined path are those of both**, if the second starts with a name. -/
theorem pathParts_joinPath {base more : String} (h : pathLead more.toList = []) :
    pathParts (joinPath base more) = pathParts base ++ pathParts more := by
  have hmore : ¬ IsAbsolute more := by
    rw [isAbsolute_iff_pathLead, h]
    nofun
  have hlead : pathLead (joinPath base more).toList = pathLead base.toList := by
    by_cases hbase : base = ""
    · rw [hbase, joinPath_empty, h]
      rfl
    · obtain ⟨front, hjoin, hfront⟩ := exists_toList_joinPath hbase hmore
      have hne : base.toList ≠ [] := by simpa using hbase
      rw [hjoin]
      rcases hfront with hfront | hfront
      · rw [← hfront]
        exact pathLead_append_slash hne _
      · rw [hfront]
        cases front with
        | nil => rfl
        | cons c cs =>
          rw [pathLead_append_slash (List.cons_ne_nil c cs),
            pathLead_append_slash (List.cons_ne_nil c cs)]
  rw [pathParts_eq, namedParts_joinPath, hlead, if_neg hmore, pathParts_eq, pathParts_eq, h,
    List.nil_append, List.append_assoc]

/-! ## Steps -/

/-- Whether a part of a path is one step further down: a name without a slash. -/
structure IsStep (part : String) : Prop where
  slash_free : '/' ∉ part.toList
  named : ¬ isIdlePart part

theorem IsStep.splitPath_eq {part : String} (h : IsStep part) : splitPath part.toList = [part] := by
  rw [splitPath, List.splitOn_eq_singleton h.slash_free, List.map_singleton, String.ofList_toList]

theorem IsStep.namedParts_eq {part : String} (h : IsStep part) :
    namedParts part.toList = [part] := by
  rw [namedParts, h.splitPath_eq, List.filter_cons_of_pos (by simpa using h.named),
    List.filter_nil]

theorem IsStep.pathLead_eq {part : String} (h : IsStep part) : pathLead part.toList = [] := by
  have hslash := h.slash_free
  have hnamed := h.named
  rw [pathLead.eq_def]
  split
  · next hpart => simp [hpart] at hslash
  · next hpart =>
    have hdot : part = "." := String.toList_inj.1 hpart
    rw [hdot] at hnamed
    exact absurd (by decide) hnamed
  · next hpart => simp [hpart] at hslash
  · rfl

theorem IsStep.pathParts_eq {part : String} (h : IsStep part) : pathParts part = [part] := by
  rw [ScreenRoutes.pathParts_eq, h.pathLead_eq, h.namedParts_eq, List.nil_append]

/-- **Steps that are joined one after the other are the parts of the path.** -/
theorem pathParts_foldl_joinPath {steps : List String} (h : ∀ step ∈ steps, IsStep step)
    (base : String) : pathParts (steps.foldl joinPath base) = pathParts base ++ steps := by
  induction steps generalizing base with
  | nil => simp
  | cons step steps ih =>
    rw [List.forall_mem_cons] at h
    rw [List.foldl_cons, ih h.2, pathParts_joinPath h.1.pathLead_eq, h.1.pathParts_eq,
      List.append_assoc, List.singleton_append]

/-- A path of steps starts with neither the root nor a dot. -/
theorem pathLead_eq_nil_of_steps {path : String} (h : ∀ part ∈ pathParts path, IsStep part) :
    pathLead path.toList = [] := by
  rw [pathParts_eq] at h
  rcases pathLead_cases path.toList with hlead | hlead | hlead
  · exact hlead
  · have hstep := h "." (by simp [hlead])
    exact absurd (by decide) hstep.named
  · have hstep := h "/" (by simp [hlead])
    exact absurd (by decide) hstep.slash_free

end ScreenRoutes
