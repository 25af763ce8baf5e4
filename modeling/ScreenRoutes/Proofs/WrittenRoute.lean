import ScreenRoutes.Proofs.Screen

/-!
# Routes written out

A screen's pattern and the routes that its trigger sends come from one walk and differ only in what
stands for an argument. `Screen.written` is the walk's text with any texts in those places. It is a
path joined by `/` and a query joined by `&` (`toList_written`), and the first `?` stands between
the two (`cut_written`) as long as neither the names nor the texts of the path hold one.
-/

namespace ScreenRoutes

open Text

/-- The text of a step with `v`'s texts in place of the arguments. -/
def RouteStep.written (v : Parameter → String) : RouteStep → String
  | .text s => s
  | .path p | .query p => v p

namespace Screen

/-- The text of the screen's route with `v`'s texts in place of the arguments. -/
def written (s : Screen) (v : Parameter → String) : String :=
  concat (s.walk.map (RouteStep.written v))

theorem pattern_eq_written (s : Screen) :
    s.pattern = s.written fun p => "\x7b" ++ p.name ++ "\x7d" := by
  have h : RouteStep.template = RouteStep.written fun p => "\x7b" ++ p.name ++ "\x7d" := by
    funext step
    cases step <;> rfl
  rw [pattern, routePattern, h]
  rfl

/-! ## Path and query -/

def entryText (v : Parameter → String) (p : Parameter) : List Char :=
  p.name.toList ++ '=' :: (v p).toList

/-- The parts of the path that `/` joins: the route's name and the required arguments. -/
def pathTexts (s : Screen) (v : Parameter → String) : List (List Char) :=
  s.route.toList :: s.required.map fun p => (v p).toList

/-- The query behind the `?`; none where the screen has no optional arguments. -/
def queryText? (s : Screen) (v : Parameter → String) : Option (List Char) :=
  if s.optional.isEmpty then none else some (['&'].intercalate (s.optional.map (entryText v)))

end Screen

theorem flatMap_pathWalk (v : Parameter → String) (front : List Char) (ps : List Parameter) :
    front ++ (ps.flatMap fun p => [RouteStep.text "/", .path p]).flatMap
        (fun step => (step.written v).toList) =
      ['/'].intercalate (front :: ps.map fun p => (v p).toList) := by
  induction ps generalizing front with
  | nil => simp
  | cons p ps ih =>
    rw [List.map_cons, List.intercalate_cons_cons, ← ih]
    simp [RouteStep.written]

theorem flatMap_queryWalk (v : Parameter → String) (lead : String) (p : Parameter)
    (ps : List Parameter) :
    (queryWalk lead (p :: ps)).flatMap (fun step => (step.written v).toList) =
      lead.toList ++ ['&'].intercalate ((p :: ps).map (Screen.entryText v)) := by
  induction ps generalizing lead p with
  | nil => simp [queryWalk, RouteStep.written, Screen.entryText]
  | cons q ps ih =>
    rw [queryWalk]
    simp only [List.flatMap_cons, ih, List.map_cons, List.intercalate_cons_cons]
    simp [RouteStep.written, Screen.entryText]

namespace Screen

/-- **A written route is its path, and its query behind a `?`.** -/
theorem toList_written (s : Screen) (v : Parameter → String) :
    (s.written v).toList =
      ['/'].intercalate (s.pathTexts v) ++ (s.queryText? v).elim [] ('?' :: ·) := by
  rw [written, toList_concat, List.flatMap_map, walk, routeWalk, List.cons_append,
    List.flatMap_cons, List.flatMap_append, ← List.append_assoc]
  congr 1
  · exact flatMap_pathWalk v _ _
  · cases hopt : s.optional with
    | nil => simp [queryText?, hopt, queryWalk]
    | cons p ps =>
      rw [flatMap_queryWalk]
      simp [queryText?, hopt]

theorem cut_written {s : Screen} {v : Parameter → String} (hroute : '?' ∉ s.route.toList)
    (hv : ∀ p ∈ s.required, '?' ∉ (v p).toList) :
    cut '?' (s.written v).toList = (['/'].intercalate (s.pathTexts v), s.queryText? v) := by
  have hpath : '?' ∉ ['/'].intercalate (s.pathTexts v) := by
    refine not_mem_intercalate (by decide) (List.forall_mem_cons.2 ⟨hroute, ?_⟩)
    simpa using hv
  rw [toList_written]
  cases s.queryText? v with
  | none =>
    rw [Option.elim_none, List.append_nil]
    exact cut_of_not_mem hpath
  | some query => exact cut_append_cons hpath query

theorem splitOn_pathTexts {s : Screen} {v : Parameter → String}
    (hv : ∀ p ∈ s.required, '/' ∉ (v p).toList) :
    (['/'].intercalate (s.pathTexts v)).splitOn '/' =
      s.route.toList.splitOn '/' ++ s.required.map fun p => (v p).toList :=
  splitOn_intercalate_cons _ (by simpa using hv)

theorem splitOn_queryText {ps : List Parameter} {v : Parameter → String} (hne : ps ≠ [])
    (hname : ∀ p ∈ ps, '&' ∉ p.name.toList) (hv : ∀ p ∈ ps, '&' ∉ (v p).toList) :
    (['&'].intercalate (ps.map (entryText v))).splitOn '&' = ps.map (entryText v) := by
  refine List.splitOn_intercalate '&' ?_ (by simpa using hne)
  intro entry hentry
  obtain ⟨p, hp, rfl⟩ := List.mem_map.1 hentry
  simp [entryText, hname p hp, hv p hp]

theorem cut_entryText {p : Parameter} (h : '=' ∉ p.name.toList) (v : Parameter → String) :
    cut '=' (entryText v p) = (p.name.toList, some (v p).toList) :=
  cut_append_cons h _

end Screen

end ScreenRoutes
