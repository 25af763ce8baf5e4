import ScreenRoutes.Pattern.Captures
import ScreenRoutes.Proofs.Assoc
import ScreenRoutes.Proofs.Pattern.Parse

/-!
# Matching written routes

A match gives every placeholder of the path a text that is not empty and no name twice
(`captures?_names_sublist`, `exists_capture`). A screen's pattern matches the route with `v`'s texts
in the place of its arguments, and takes exactly these texts, unless one in the path is empty
(`captures?_written`). Whatever it matches starts with its own route name (`head?_of_captures?`).
-/

namespace ScreenRoutes

open Text

/-! ## What a match takes -/

theorem pathCaptures?_names {segments : List Segment} {parts : List (List Char)} {taken : Captures}
    (h : pathCaptures? segments parts = some taken) :
    taken.map (·.1) = segments.filterMap Segment.name? := by
  fun_induction pathCaptures? segments parts generalizing taken with
  | case1 => simp_all
  | case2 text segments parts ih =>
    rw [List.filterMap_cons_none rfl]
    exact ih h
  | case3 => cases h
  | case4 => cases h
  | case5 name segments part parts hne ih =>
    obtain ⟨rest, hrest, rfl⟩ := Option.map_eq_some_iff.1 h
    simp [Segment.name?, ih hrest]
  | case6 => cases h

theorem pathCaptures?_ne_empty {segments : List Segment} {parts : List (List Char)}
    {taken : Captures} (h : pathCaptures? segments parts = some taken) :
    ∀ c ∈ taken, c.2 ≠ "" := by
  fun_induction pathCaptures? segments parts generalizing taken with
  | case1 => simp_all
  | case2 text segments parts ih => exact ih h
  | case3 => cases h
  | case4 => cases h
  | case5 name segments part parts hne ih =>
    obtain ⟨rest, hrest, rfl⟩ := Option.map_eq_some_iff.1 h
    exact List.forall_mem_cons.2 ⟨by simpa using hne, ih hrest⟩
  | case6 => cases h

theorem queryCaptures_names_sublist (slots : List QuerySlot) (entries : List (String × String)) :
    ((queryCaptures slots entries).map (·.1)).Sublist (slots.map (·.placeholder)) := by
  induction slots with
  | nil => simp [queryCaptures]
  | cons slot slots ih =>
    rw [queryCaptures, List.filterMap_cons]
    cases entries.lookup slot.key with
    | none => exact ih.cons _
    | some value => exact ih.cons_cons _

namespace Pattern

theorem captures?_eq_some_iff {p : Pattern} {route : String} {captures : Captures} :
    p.captures? route = some captures ↔
      ∃ taken, pathCaptures? p.segments ((cut '?' route.toList).1.splitOn '/') = some taken ∧
        captures = taken ++
          queryCaptures p.query (queryEntries ((cut '?' route.toList).2.getD [])) := by
  rw [captures?]
  simp only [Option.map_eq_some_iff]
  exact exists_congr fun taken => and_congr_right fun _ => eq_comm

/-- A match takes texts for placeholders of the pattern only, and for none of them twice. -/
theorem captures?_names_sublist {p : Pattern} {route : String} {captures : Captures}
    (h : p.captures? route = some captures) : (captures.map (·.1)).Sublist p.names := by
  obtain ⟨taken, htaken, rfl⟩ := captures?_eq_some_iff.1 h
  rw [List.map_append, pathCaptures?_names htaken, names]
  exact (List.Sublist.refl _).append (queryCaptures_names_sublist _ _)

theorem lookup_of_not_mem_names {p : Pattern} {route : String} {captures : Captures}
    (h : p.captures? route = some captures) {name : String} (hname : name ∉ p.names) :
    captures.lookup name = none := by
  rw [lookup_eq_none_iff_not_mem]
  exact fun hmem => hname ((captures?_names_sublist h).subset hmem)

/-- A placeholder of the query takes what the entries have for its key, whatever the path took. -/
theorem lookup_append_queryCaptures {p : Pattern} (hnames : p.names.Nodup) {taken : Captures}
    (htaken : taken.map (·.1) = p.segments.filterMap Segment.name?) {slot : QuerySlot}
    (hslot : slot ∈ p.query) (entries : List (String × String)) :
    (taken ++ queryCaptures p.query entries).lookup slot.placeholder = entries.lookup slot.key := by
  rw [names, List.nodup_append, ← htaken] at hnames
  have hpath : taken.lookup slot.placeholder = none := by
    rw [lookup_eq_none_iff_not_mem]
    intro hmem
    exact hnames.2.2 _ hmem _ (List.mem_map_of_mem hslot) rfl
  rw [List.lookup_append, hpath, Option.none_or, queryCaptures]
  exact lookup_filterMap hnames.2.1 (fun slot => entries.lookup slot.key) hslot

/-- **Every placeholder of the path takes a text that is not empty.** -/
theorem exists_capture {p : Pattern} {route : String} {captures : Captures}
    (h : p.captures? route = some captures) {name : String}
    (hname : name ∈ p.segments.filterMap Segment.name?) :
    ∃ raw, captures.lookup name = some raw ∧ raw ≠ "" := by
  obtain ⟨taken, htaken, rfl⟩ := captures?_eq_some_iff.1 h
  rw [← pathCaptures?_names htaken] at hname
  have hne := pathCaptures?_ne_empty htaken
  clear htaken h
  induction taken with
  | nil => cases hname
  | cons c taken ih =>
    rw [List.forall_mem_cons] at hne
    rw [List.cons_append, List.lookup_cons]
    split
    · exact ⟨c.2, rfl, hne.1⟩
    · next hc =>
      rw [List.map_cons, List.mem_cons] at hname
      rcases hname with rfl | hname
      · simp at hc
      · exact ih hname hne.2

end Pattern

/-! ## Matching what was written -/

theorem pathCaptures?_fixed (pieces : List (List Char)) (segments : List Segment)
    (parts : List (List Char)) :
    pathCaptures? ((pieces.map fun piece => .fixed (String.ofList piece)) ++ segments)
        (pieces ++ parts) = pathCaptures? segments parts := by
  induction pieces with
  | nil => rfl
  | cons piece pieces ih => simpa [pathCaptures?] using ih

theorem pathCaptures?_placeholders (ps : List Parameter) (v : Parameter → String) :
    pathCaptures? (ps.map fun p => .placeholder p.name) (ps.map fun p => (v p).toList) =
      if ∃ p ∈ ps, v p = "" then none else some (ps.map fun p => (p.name, v p)) := by
  induction ps with
  | nil => simp [pathCaptures?]
  | cons p ps ih =>
    rw [List.map_cons, List.map_cons, pathCaptures?, ih]
    by_cases hp : v p = ""
    · simp [hp]
    · by_cases hps : ∃ p ∈ ps, v p = ""
      · simp [hp, hps]
      · simp [hp, hps]

namespace Screen

variable {s : Screen}

theorem queryEntries_query (h : s.WellNamed) {v : Parameter → String}
    (hv : ∀ p ∈ s.optional, '&' ∉ (v p).toList) :
    queryEntries ((s.queryText? v).getD []) = s.optional.map fun p => (p.name, v p) := by
  have hname {c : Char} (hc : c ∈ routeMarks) : ∀ p ∈ s.optional, c ∉ p.name.toList :=
    fun p hp => h.not_mem_name (List.mem_append_right _ hp) hc
  rw [queryText?]
  split
  · next hempty => simp [queryEntries, List.isEmpty_iff.1 hempty]
  · next hne =>
    have hfull : ∀ entry ∈ s.optional.map (entryText v), (!entry.isEmpty) = true := by
      simp [entryText]
    rw [Option.getD_some, queryEntries,
      splitOn_queryText (by simpa using hne) (hname (by decide)) hv,
      List.filter_eq_self.2 hfull, List.map_map]
    refine List.map_congr_left fun p hp => ?_
    rw [Function.comp_apply, cut_entryText (hname (by decide) p hp)]
    simp

theorem queryCaptures_query (h : (s.params.map (·.name)).Nodup) (v : Parameter → String) :
    queryCaptures s.parts.query (s.optional.map fun p => (p.name, v p)) =
      s.optional.map fun p => (p.name, v p) := by
  have hself : ∀ p ∈ s.optional,
      (s.optional.map fun p => (p.name, v p)).lookup p.name = some (v p) :=
    fun p hp => lookup_map_of_mem (filter_names_nodup h _) hp
  rw [queryCaptures, parts, List.filterMap_map,
    List.filterMap_congr (g := fun p => some (p.name, v p)), List.filterMap_eq_map']
  intro p hp
  rw [Function.comp_apply, hself p hp]
  rfl

/-- **A screen's pattern takes from a written route what was written**, unless that leaves a part of
the path empty. -/
theorem captures?_written (h : s.WellNamed) {v : Parameter → String}
    (hrequired : ∀ p ∈ s.required, '/' ∉ (v p).toList ∧ '?' ∉ (v p).toList)
    (hoptional : ∀ p ∈ s.optional, '&' ∉ (v p).toList) :
    s.parts.captures? (s.written v) =
      if ∃ p ∈ s.required, v p = "" then none else some (s.carried.map fun p => (p.name, v p)) := by
  rw [Pattern.captures?, cut_written (h.route_free '?' (by decide)) fun p hp => (hrequired p hp).2]
  simp only [splitOn_pathTexts fun p hp => (hrequired p hp).1, parts, routeSegments,
    pathCaptures?_fixed, pathCaptures?_placeholders]
  rw [queryEntries_query h hoptional]
  split
  · rfl
  · have hquery := queryCaptures_query h.names_nodup v
    rw [parts] at hquery
    rw [Option.map_some, hquery, carried, List.map_append]

theorem head?_written (hroute : '?' ∉ s.route.toList ∧ '/' ∉ s.route.toList)
    {v : Parameter → String}
    (hrequired : ∀ p ∈ s.required, '/' ∉ (v p).toList ∧ '?' ∉ (v p).toList) :
    ((cut '?' (s.written v).toList).1.splitOn '/').head? = some s.route.toList := by
  rw [cut_written hroute.1 fun p hp => (hrequired p hp).2,
    splitOn_pathTexts fun p hp => (hrequired p hp).1, List.splitOn_eq_singleton hroute.2]
  rfl

/-- A screen's pattern matches only what starts with the name of its route. -/
theorem head?_of_captures? {route : String} {captures : Captures} (hslash : '/' ∉ s.route.toList)
    (h : s.parts.captures? route = some captures) :
    ((cut '?' route.toList).1.splitOn '/').head? = some s.route.toList := by
  obtain ⟨taken, htaken, -⟩ := Pattern.captures?_eq_some_iff.1 h
  rw [parts, routeSegments, List.splitOn_eq_singleton hslash] at htaken
  cases hparts : (cut '?' route.toList).1.splitOn '/' with
  | nil => simp [hparts, pathCaptures?] at htaken
  | cons part parts =>
    simp only [hparts, List.map_cons, List.map_nil, List.singleton_append, pathCaptures?] at htaken
    split at htaken
    · next heq => simpa using heq.symm
    · cases htaken

end Screen

end ScreenRoutes
