import ScreenRoutes.Proofs.Expansion.Traits
import ScreenRoutes.Proofs.OutputPath
import ScreenRoutes.SourceFile.Layout

/-!
# Where a source file lies

The file of a unit lies in the directory of its package, under the name of the unit, exactly where
neither the package nor the name has a slash in it (`sourcePath_lies_in_package_iff`). A slash is
not refused anywhere before: in a package it is a further directory or the root, in a name it ends a
directory, and `..` in front of one leads back up.
-/

namespace ScreenRoutes

open Text

/-! ## Upper case -/

theorem toNat_ofNat_of_ne {n : Nat} (h : Char.ofNat n ≠ '\x00') : (Char.ofNat n).toNat = n := by
  by_cases hvalid : n.isValidChar
  · rw [Char.ofNat, dif_pos hvalid]
    rfl
  · rw [Char.ofNat, dif_neg hvalid] at h
    exact absurd rfl h

theorem eq_slash_of_ofNat {n : Nat} (h : Char.ofNat n = '/') : n = 0x2F := by
  have hne : Char.ofNat n ≠ '\x00' := by
    rw [h]
    decide
  rw [← toNat_ofNat_of_ne hne, h]
  rfl

/-- No other character has a slash in its upper form. -/
theorem eq_slash_of_mem_upper {c : Char} (h : '/' ∈ upper c) : c = '/' := by
  rw [upper] at h
  split at h
  · next hascii =>
    have hall : ∀ n < 0x80, '/' = (Char.ofNat n).toUpper → Char.ofNat n = '/' := by
      decide +kernel
    rw [List.mem_singleton] at h
    have hc := hall c.toNat hascii
    rw [Char.ofNat_toNat] at hc
    exact hc h
  · split at h
    · next ns hlookup =>
      have hall : ∀ e ∈ upperExpansions, 0x2F ∉ e.2 := by decide +kernel
      obtain ⟨n, hn, hslash⟩ := List.mem_map.1 h
      obtain ⟨front, rest, hsplit, -⟩ := List.lookup_eq_some_iff.1 hlookup
      rw [eq_slash_of_ofNat hslash] at hn
      exact absurd hn (hall (c.toNat, ns) (by simp [hsplit]))
    · split at h
      · next n hrun =>
        have hall : ∀ r ∈ upperRuns, 0x2F < r.target := by decide +kernel
        obtain ⟨r, hr, hupper⟩ := List.exists_of_findSome?_eq_some hrun
        obtain ⟨-, -, -, hn⟩ := CaseRun.upper?_eq_some_iff.1 hupper
        have htarget := hall r hr
        have hslash := eq_slash_of_ofNat (List.mem_singleton.1 h).symm
        omega
      · exact (List.mem_singleton.1 h).symm

theorem slash_mem_capitalize {s : String} : '/' ∈ (capitalize s).toList ↔ '/' ∈ s.toList := by
  cases hs : s.toList with
  | nil => simp [capitalize, hs]
  | cons c cs =>
    rw [toList_capitalize hs, List.mem_append, List.mem_cons]
    constructor
    · rintro (h | h)
      · exact .inl (eq_slash_of_mem_upper h).symm
      · exact .inr h
    · rintro (rfl | h)
      · exact .inl (by decide)
      · exact .inr h

/-! ## Directories and names -/

/-- The directories of a package, one for each part of its name. -/
def packageFolders (package : String) : List String :=
  ((package.toList.splitOn '.').filter fun part => !part.isEmpty).map String.ofList

def sourceName (unit : String) : String :=
  unit ++ ".kt"

theorem CodeUnit.sourcePath_eq (u : CodeUnit) :
    u.sourcePath = joinPath ((packageFolders u.package).foldl joinPath "") (sourceName u.name) :=
  rfl

theorem slash_mem_package_iff {package : String} :
    '/' ∈ package.toList ↔ ∃ folder ∈ packageFolders package, '/' ∈ folder.toList := by
  constructor
  · intro h
    by_contra hnone
    have hfree : ∀ part ∈ package.toList.splitOn '.', '/' ∉ part := by
      intro part hpart hslash
      have hne : part.isEmpty = false := by
        rw [List.isEmpty_eq_false_iff]
        exact List.ne_nil_of_mem hslash
      refine hnone ⟨String.ofList part, ?_, by rwa [String.toList_ofList]⟩
      exact List.mem_map_of_mem (List.mem_filter.2 ⟨hpart, by rw [hne]; rfl⟩)
    have hjoin : ['.'].intercalate (package.toList.splitOn '.') = package.toList :=
      List.intercalate_splitOn '.'
    rw [← hjoin] at h
    exact not_mem_intercalate (by decide) hfree h
  · rintro ⟨folder, hfolder, hslash⟩
    obtain ⟨part, hpart, rfl⟩ := List.mem_map.1 hfolder
    rw [String.toList_ofList] at hslash
    exact mem_of_mem_splitOn (List.mem_filter.1 hpart).1 hslash

theorem point_not_mem_folder {package folder : String} (h : folder ∈ packageFolders package) :
    '.' ∉ folder.toList := by
  obtain ⟨part, hpart, rfl⟩ := List.mem_map.1 h
  rw [String.toList_ofList]
  exact not_mem_of_mem_splitOn (List.mem_filter.1 hpart).1

theorem folder_ne_empty {package folder : String} (h : folder ∈ packageFolders package) :
    folder ≠ "" := by
  obtain ⟨part, hpart, rfl⟩ := List.mem_map.1 h
  simpa using (List.mem_filter.1 hpart).2

theorem isStep_folder {package folder : String} (hpackage : '/' ∉ package.toList)
    (h : folder ∈ packageFolders package) : IsStep folder where
  slash_free hslash := hpackage (slash_mem_package_iff.2 ⟨folder, h, hslash⟩)
  named := by
    have hpoint := point_not_mem_folder h
    have hdot : folder ≠ "." := by
      rintro rfl
      exact absurd hpoint (by decide)
    simp [isIdlePart, folder_ne_empty h, hdot]

theorem slash_mem_sourceName {unit : String} :
    '/' ∈ (sourceName unit).toList ↔ '/' ∈ unit.toList := by
  simp [sourceName]

theorem isStep_sourceName {unit : String} (h : '/' ∉ unit.toList) : IsStep (sourceName unit) where
  slash_free := by rwa [slash_mem_sourceName]
  named := by
    have hlength : 3 ≤ (sourceName unit).length := by
      rw [sourceName, String.length_append]
      exact Nat.le_add_left 3 unit.length
    have hempty : sourceName unit ≠ "" := by
      intro heq
      simp [heq] at hlength
    have hdot : sourceName unit ≠ "." := by
      intro heq
      rw [heq] at hlength
      exact absurd hlength (by decide)
    simp [isIdlePart, hempty, hdot]

theorem isAbsolute_sourceName {unit : String} : IsAbsolute (sourceName unit) ↔ IsAbsolute unit := by
  rw [IsAbsolute, IsAbsolute, sourceName, String.toList_append]
  cases unit.toList with
  | nil => simp
  | cons c cs => simp

/-! ## The path -/

/-- Whether a path is that of a file of the given name in the directory of a package. -/
structure LiesIn (package name path : String) : Prop where
  relative : ¬ IsAbsolute path
  parts_eq : pathParts path = packageFolders package ++ [name]

namespace LiesIn

variable {package unit path : String}

theorem slash_free (h : LiesIn package (sourceName unit) path) :
    '/' ∉ package.toList ∧ '/' ∉ unit.toList := by
  have hfree : ∀ part ∈ packageFolders package ++ [sourceName unit], '/' ∉ part.toList := by
    rw [← h.parts_eq]
    exact fun part => not_mem_slash_of_mem_pathParts h.relative
  rw [List.forall_mem_append, List.forall_mem_singleton, slash_mem_sourceName] at hfree
  refine ⟨fun hslash => ?_, hfree.2⟩
  obtain ⟨folder, hfolder, hslash⟩ := slash_mem_package_iff.1 hslash
  exact hfree.1 folder hfolder hslash

theorem isStep (h : LiesIn package (sourceName unit) path) : ∀ part ∈ pathParts path, IsStep part := by
  obtain ⟨hpackage, hunit⟩ := h.slash_free
  rw [h.parts_eq, List.forall_mem_append, List.forall_mem_singleton]
  exact ⟨fun _ => isStep_folder hpackage, isStep_sourceName hunit⟩

/-- It lies there below whatever directory it is appended to. -/
theorem pathParts_joinPath (h : LiesIn package (sourceName unit) path) (out : String) :
    pathParts (joinPath out path) = pathParts out ++ packageFolders package ++ [sourceName unit] := by
  rw [ScreenRoutes.pathParts_joinPath (pathLead_eq_nil_of_steps h.isStep), h.parts_eq,
    List.append_assoc]

end LiesIn

namespace CodeUnit

variable {u : CodeUnit}

theorem liesIn_sourcePath (hpackage : '/' ∉ u.package.toList) (hname : '/' ∉ u.name.toList) :
    LiesIn u.package (sourceName u.name) u.sourcePath := by
  have hfolders : ∀ folder ∈ packageFolders u.package, IsStep folder := fun _ =>
    isStep_folder hpackage
  have hfile := isStep_sourceName hname
  have hparts : pathParts u.sourcePath = packageFolders u.package ++ [sourceName u.name] := by
    rw [sourcePath_eq, pathParts_joinPath hfile.pathLead_eq, pathParts_foldl_joinPath hfolders,
      hfile.pathParts_eq]
    rfl
  have hsteps : ∀ part ∈ pathParts u.sourcePath, IsStep part := by
    rw [hparts, List.forall_mem_append, List.forall_mem_singleton]
    exact ⟨hfolders, hfile⟩
  refine ⟨?_, hparts⟩
  rw [isAbsolute_iff_pathLead, pathLead_eq_nil_of_steps hsteps]
  nofun

theorem isAbsolute_sourcePath_iff :
    IsAbsolute u.sourcePath ↔
      (∃ folder ∈ packageFolders u.package, IsAbsolute folder) ∨ IsAbsolute u.name := by
  rw [sourcePath_eq, isAbsolute_joinPath, isAbsolute_foldl_joinPath, isAbsolute_sourceName]
  simp [IsAbsolute]

/-- No directory of a package leads up. -/
theorem up_not_mem_folders (package : String) :
    ".." ∉ namedParts ((packageFolders package).foldl joinPath "").toList := by
  have hfolders : ∀ folder ∈ packageFolders package, ".." ∉ namedParts folder.toList := by
    intro folder hfolder hup
    obtain ⟨piece, hpiece, hpoints⟩ := List.mem_map.1 (mem_namedParts.1 hup).1
    have hpiece := mem_of_mem_splitOn (x := '.') hpiece (by
      rw [← String.toList_ofList (l := piece), hpoints]
      decide)
    exact point_not_mem_folder hfolder hpiece
  have hjoin : ∀ folders : List String, (∀ folder ∈ folders, ".." ∉ namedParts folder.toList) →
      ∀ base : String, ".." ∉ namedParts base.toList →
        ".." ∉ namedParts (folders.foldl joinPath base).toList := by
    intro folders
    induction folders with
    | nil => exact fun _ _ hbase => hbase
    | cons folder folders ih =>
      intro h base hbase
      rw [List.forall_mem_cons] at h
      refine ih h.2 _ ?_
      rw [namedParts_joinPath, List.mem_append, not_or]
      refine ⟨?_, h.1⟩
      split
      · exact List.not_mem_nil
      · exact hbase
  exact hjoin _ hfolders "" (by decide)

theorem up_mem_sourcePath_iff :
    ".." ∈ pathParts u.sourcePath ↔ ".." ∈ splitPath (sourceName u.name).toList := by
  have hlead : ".." ∉ pathLead u.sourcePath.toList := by
    rcases pathLead_cases u.sourcePath.toList with h | h | h <;> rw [h] <;> decide
  have hfolders : ".." ∉ if IsAbsolute (sourceName u.name) then []
      else namedParts ((packageFolders u.package).foldl joinPath "").toList := by
    split
    · exact List.not_mem_nil
    · exact up_not_mem_folders u.package
  have hidle : ¬ isIdlePart ".." := by decide
  rw [pathParts_eq, List.mem_append, or_iff_right hlead, sourcePath_eq, namedParts_joinPath,
    List.mem_append, or_iff_right hfolders, mem_namedParts, and_iff_left hidle]

end CodeUnit

/-- **The file of a unit lies in the directory of its package exactly where no name has a slash in
it.** Then it lies there below whatever directory is the output root. Else the path is absolute
where a directory or the name starts with a slash, and leads up where the name does. -/
theorem sourcePath_lies_in_package_iff {d : Declaration} {table : TypeTable} {s : Screen}
    (h : d.classify table = .ok s) (lead : String) :
    let path := (s.unit lead).sourcePath
    let name := unitName lead d.route
    (LiesIn d.package (sourceName name) path ↔
      '/' ∉ d.package.toList ∧ '/' ∉ lead.toList ∧ '/' ∉ d.route.toList) ∧
    (LiesIn d.package (sourceName name) path → ∀ out,
      pathParts (joinPath out path) = pathParts out ++ packageFolders d.package ++ [sourceName name]) ∧
    (IsAbsolute path ↔
      (∃ folder ∈ packageFolders d.package, IsAbsolute folder) ∨ IsAbsolute name) ∧
    (".." ∈ pathParts path ↔ ".." ∈ splitPath (sourceName name).toList) := by
  obtain ⟨-, params, -, hs⟩ := Declaration.exists_of_classify h
  have hpackage : d.package = (s.unit lead).package := by
    rw [hs]
    rfl
  have hunit : unitName lead d.route = (s.unit lead).name := by
    rw [hs]
    rfl
  have hname : '/' ∉ (s.unit lead).name.toList ↔ '/' ∉ lead.toList ∧ '/' ∉ d.route.toList := by
    rw [← hunit]
    simp [unitName, slash_mem_capitalize]
  dsimp only
  rw [hpackage, hunit, ← hname]
  exact ⟨⟨LiesIn.slash_free, fun hfree => CodeUnit.liesIn_sourcePath hfree.1 hfree.2⟩,
    LiesIn.pathParts_joinPath, CodeUnit.isAbsolute_sourcePath_iff, CodeUnit.up_mem_sourcePath_iff⟩

theorem sourcePath_lies_in_package_iff_show :
    let d : Declaration := ⟨"in.app", "Show", "show", none, []⟩
    let s : Screen := ⟨"show", "Show", "in.app", none, []⟩
    d.classify .ofPackages = .ok s ∧
      LiesIn "in.app" "NavGenShow.kt" (s.unit "NavGen").sourcePath ∧
      pathParts (joinPath "./out/" (s.unit "NavGen").sourcePath) =
        [".", "out", "in", "app", "NavGenShow.kt"] := by
  intro d s
  have h : d.classify .ofPackages = .ok s := by decide
  have hname : sourceName (unitName "NavGen" d.route) = "NavGenShow.kt" := by decide
  have hparts : pathParts "./out/" ++ packageFolders d.package ++ ["NavGenShow.kt"] =
      [".", "out", "in", "app", "NavGenShow.kt"] := by
    decide
  obtain ⟨hlies, hbelow, -, -⟩ := sourcePath_lies_in_package_iff h "NavGen"
  rw [hname] at hlies hbelow
  have hin := hlies.2 (by decide)
  exact ⟨h, hin, (hbelow hin "./out/").trans hparts⟩

/-- A screen is accepted whose file lies outside the directory of its package, and even outside the
output root. -/
theorem stray_sourcePath :
    let d : Declaration := ⟨"in.app", "Show", "a/../../../b", none, []⟩
    let s : Screen := ⟨"a/../../../b", "Show", "in.app", none, []⟩
    d.classify .ofPackages = .ok s ∧
      (s.unit "NavGen").sourcePath = "in/app/NavGenA/../../../b.kt" ∧
      pathParts (s.unit "NavGen").sourcePath = ["in", "app", "NavGenA", "..", "..", "..", "b.kt"] ∧
      ¬ LiesIn "in.app" "NavGenA/../../../b.kt" (s.unit "NavGen").sourcePath := by
  intro d s
  have hparts : pathParts (s.unit "NavGen").sourcePath =
      ["in", "app", "NavGenA", "..", "..", "..", "b.kt"] := by
    decide
  refine ⟨by decide, by decide, hparts, fun hlies => ?_⟩
  have hsame := hlies.parts_eq
  rw [hparts] at hsame
  exact absurd hsame (by decide)

end ScreenRoutes
