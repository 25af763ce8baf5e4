import ScreenRoutes.Proofs.Pattern.Filling

/-!
# What of a route counts

A route is matched where the parts of its path fit the segments one by one. Of its query each slot
takes the first entry with its key, so a query counts only as far as its entries can be told apart
by the keys of the pattern: entries with different keys change places freely, and empty entries and
those of other keys come and go (`matching_exact`).
-/

namespace ScreenRoutes

open Text

/-! ## The path -/

/-- Whether a part of a path is one that the segment stands for. -/
def Segment.Fits : Segment → List Char → Prop
  | .fixed text, part => part = text.toList
  | .placeholder _, part => part ≠ []

theorem exists_pathCaptures?_iff {segments : List Segment} {parts : List (List Char)} :
    (∃ taken, pathCaptures? segments parts = some taken) ↔
      List.Forall₂ Segment.Fits segments parts := by
  fun_induction pathCaptures? segments parts with
  | case1 => simp
  | case2 text segments parts ih => simpa [Segment.Fits] using ih
  | case3 text segments part parts hne => simp [Segment.Fits, Ne.symm hne]
  | case4 name segments part parts hempty =>
    have hpart : part = [] := by simpa using hempty
    simp [Segment.Fits, hpart]
  | case5 name segments part parts hne ih =>
    have hpart : part ≠ [] := by simpa using hne
    rw [List.forall₂_cons, ← ih]
    simp [Segment.Fits, hpart]
  | case6 segments parts hnil hfixed hplaceholder =>
    simp only [reduceCtorEq, exists_false, false_iff]
    intro hfit
    cases hfit with
    | nil => exact hnil rfl rfl
    | @cons segment part segments parts hpart hrest =>
      cases segment with
      | fixed text => exact hfixed text segments part parts rfl rfl
      | placeholder name => exact hplaceholder name segments part parts rfl rfl

/-- A placeholder takes the part that stands in its place. -/
theorem mem_of_pathCaptures? {segments : List Segment} {parts : List (List Char)} {taken : Captures}
    (h : pathCaptures? segments parts = some taken) {i : Nat} {name : String}
    (hi : segments[i]? = some (.placeholder name)) :
    ∃ part, parts[i]? = some part ∧ (name, String.ofList part) ∈ taken := by
  fun_induction pathCaptures? segments parts generalizing taken i with
  | case1 => simp at hi
  | case2 text segments parts ih =>
    cases i with
    | zero => simp at hi
    | succ i => exact ih h hi
  | case3 => cases h
  | case4 => cases h
  | case5 other segments part parts hne ih =>
    obtain ⟨rest, hrest, rfl⟩ := Option.map_eq_some_iff.1 h
    cases i with
    | zero =>
      obtain rfl : other = name := by simpa using hi
      exact ⟨part, rfl, List.mem_cons_self⟩
    | succ i =>
      obtain ⟨part', hpart', hmem⟩ := ih hrest hi
      exact ⟨part', hpart', List.mem_cons_of_mem _ hmem⟩
  | case6 => cases h

/-! ## The query -/

/-- The text of an entry before its first `=`. -/
def entryKey (entry : List Char) : List Char :=
  (cut '=' entry).1

/-- The text of an entry after its first `=`; empty where it has none. -/
def entryValue (entry : List Char) : String :=
  String.ofList ((cut '=' entry).2.getD [])

/-- The entries of a key; empty ones do not count. -/
def entriesFor (key : List Char) (entries : List (List Char)) : List (List Char) :=
  entries.filter fun entry => !entry.isEmpty && entryKey entry = key

theorem lookup_queryEntries (query : List Char) (key : String) :
    (queryEntries query).lookup key =
      (entriesFor key.toList (query.splitOn '&')).head?.map entryValue := by
  rw [queryEntries, entriesFor]
  induction query.splitOn '&' with
  | nil => rfl
  | cons entry entries ih =>
    by_cases hempty : entry = []
    · simp [hempty, ih]
    · by_cases hkey : entryKey entry = key.toList
      · have hself : key = String.ofList (entryKey entry) := by rw [hkey, String.ofList_toList]
        simp [hempty, hself, entryKey, entryValue]
      · have hother : (key == String.ofList (entryKey entry)) = false := by
          rw [beq_eq_false_iff_ne]
          rintro rfl
          exact hkey (by rw [String.toList_ofList])
        rw [entryKey] at hother
        simpa [hempty, hkey, List.lookup_cons, hother] using ih

/-- Whether `value` is the value of the first entry of the key that is not empty. -/
def FirstValue (entries : List (List Char)) (key value : String) : Prop :=
  ∃ before entry after, entries = before ++ entry :: after ∧
    (∀ e ∈ before, e ≠ [] → entryKey e ≠ key.toList) ∧
    entry ≠ [] ∧ entryKey entry = key.toList ∧ value = entryValue entry

theorem head?_entriesFor_iff {entries : List (List Char)} {key value : String} :
    (entriesFor key.toList entries).head?.map entryValue = some value ↔
      FirstValue entries key value := by
  rw [entriesFor, List.head?_filter, Option.map_eq_some_iff]
  simp only [List.find?_eq_some_iff_append]
  constructor
  · rintro ⟨entry, ⟨hentry, before, after, hsplit, hbefore⟩, rfl⟩
    simp only [Bool.and_eq_true, Bool.not_eq_true', List.isEmpty_eq_false_iff,
      decide_eq_true_eq] at hentry
    refine ⟨before, entry, after, hsplit, fun e he hne hkey => ?_, hentry.1, hentry.2, rfl⟩
    have hnot := hbefore e he
    simp [hne, hkey] at hnot
  · rintro ⟨before, entry, after, hsplit, hbefore, hne, hkey, rfl⟩
    refine ⟨entry, ⟨by simp [hne, hkey], before, after, hsplit, fun e he => ?_⟩, rfl⟩
    by_cases hempty : e = []
    · simp [hempty]
    · simp [hbefore e he hempty]

namespace Pattern

/-- What a route has for a key is the value of the first of its entries. -/
theorem lookup_entriesOf (route key : String) :
    (queryEntries ((cut '?' route.toList).2.getD [])).lookup key =
      (entriesFor key.toList (entriesOf route)).head?.map entryValue := by
  rw [lookup_queryEntries, entriesOf]
  cases (cut '?' route.toList).2 with
  | none => simp [entriesFor]
  | some query => rfl

/-- Whether two queries come to the same for a pattern: entries are put in another order that keeps
those with equal keys in theirs, or empty entries or those of a key that the pattern does not have
are added or taken away. -/
inductive SameQuery (p : Pattern) : (entries entries' : List (List Char)) → Prop
  | reordered {entries entries'} : entries.Perm entries' →
      (∀ key, entries.filter (entryKey · = key) = entries'.filter (entryKey · = key)) →
      SameQuery p entries entries'
  | emptyEntry (before after) : SameQuery p (before ++ after) (before ++ [] :: after)
  | unknownEntry (before after) {entry} : (∀ slot ∈ p.query, entryKey entry ≠ slot.key.toList) →
      SameQuery p (before ++ after) (before ++ entry :: after)
  | symm {entries entries'} : SameQuery p entries entries' → SameQuery p entries' entries
  | trans {entries entries' entries''} : SameQuery p entries entries' →
      SameQuery p entries' entries'' → SameQuery p entries entries''

/-- Neighbours with different keys change places. -/
theorem SameQuery.swap {p : Pattern} {entry entry' : List Char}
    (h : entryKey entry ≠ entryKey entry') (rest : List (List Char)) :
    p.SameQuery (entry :: entry' :: rest) (entry' :: entry :: rest) := by
  refine .reordered (.swap _ _ _) fun key => ?_
  by_cases hkey : entryKey entry = key
  · have hkey' : entryKey entry' ≠ key := fun heq => h (hkey.trans heq.symm)
    simp [hkey, hkey']
  · simp [List.filter_cons, hkey]

theorem SameQuery.entriesFor_eq {p : Pattern} {entries entries' : List (List Char)}
    (h : p.SameQuery entries entries') {slot : QuerySlot} (hslot : slot ∈ p.query) :
    entriesFor slot.key.toList entries' = entriesFor slot.key.toList entries := by
  induction h with
  | @reordered entries entries' _ hkeys =>
    have hsplit : ∀ es : List (List Char), entriesFor slot.key.toList es =
        (es.filter (entryKey · = slot.key.toList)).filter fun e => !e.isEmpty := by
      intro es
      rw [entriesFor, List.filter_filter]
    rw [hsplit, hsplit, hkeys]
  | emptyEntry before after => simp [entriesFor]
  | unknownEntry before after hkey => simp [entriesFor, hkey slot hslot]
  | symm _ ih => exact ih.symm
  | trans _ _ ih ih' => exact ih'.trans ih

/-! ## The route -/

theorem captures?_eq (p : Pattern) (route : String) :
    p.captures? route = (pathCaptures? p.segments (partsOf route)).map
      (· ++ queryCaptures p.query (queryEntries ((cut '?' route.toList).2.getD []))) := rfl

/-- A pattern takes the same from routes with one path whose queries come to the same. -/
theorem captures?_congr {p : Pattern} {route route' : String}
    (hpath : partsOf route' = partsOf route)
    (hquery : p.SameQuery (entriesOf route) (entriesOf route')) :
    p.captures? route' = p.captures? route := by
  have hslots : queryCaptures p.query (queryEntries ((cut '?' route'.toList).2.getD [])) =
      queryCaptures p.query (queryEntries ((cut '?' route.toList).2.getD [])) := by
    refine List.filterMap_congr fun slot hslot => ?_
    rw [lookup_entriesOf, lookup_entriesOf, hquery.entriesFor_eq hslot]
  rw [captures?_eq, captures?_eq, hpath, hslots]

theorem exists_captures?_iff {p : Pattern} {route : String} :
    (∃ captures, p.captures? route = some captures) ↔
      p.segments.length = (partsOf route).length ∧
        ∀ i (hi : i < p.segments.length) (hi' : i < (partsOf route).length),
          p.segments[i].Fits (partsOf route)[i] := by
  have hpath : (∃ captures, p.captures? route = some captures) ↔
      ∃ taken, pathCaptures? p.segments (partsOf route) = some taken := by
    rw [captures?_eq]
    simp only [Option.map_eq_some_iff]
    constructor
    · rintro ⟨_, taken, htaken, -⟩
      exact ⟨taken, htaken⟩
    · rintro ⟨taken, htaken⟩
      exact ⟨_, taken, htaken, rfl⟩
  rw [hpath, exists_pathCaptures?_iff, List.forall₂_iff_get]
  rfl

section Captures

variable {p : Pattern} (hnames : p.names.Nodup) {route : String} {captures : Captures}
  (h : p.captures? route = some captures)
include hnames h

theorem captures_names_nodup : (captures.map (·.1)).Nodup :=
  hnames.sublist (captures?_names_sublist h)

/-- A placeholder of the path takes the part of the route that stands in its place. -/
theorem lookup_of_segment {i : Nat} {name : String}
    (hi : p.segments[i]? = some (.placeholder name)) :
    ∃ part, (partsOf route)[i]? = some part ∧
      captures.lookup name = some (String.ofList part) := by
  have hkeys := captures_names_nodup hnames h
  obtain ⟨taken, htaken, rfl⟩ := captures?_eq_some_iff.1 h
  obtain ⟨part, hpart, hmem⟩ := mem_of_pathCaptures? htaken hi
  exact ⟨part, hpart, (lookup_eq_some_iff_mem hkeys).2 (List.mem_append_left _ hmem)⟩

/-- A placeholder of the query takes the value of the first entry of its key. -/
theorem lookup_of_slot {slot : QuerySlot} (hslot : slot ∈ p.query) (value : String) :
    captures.lookup slot.placeholder = some value ↔
      FirstValue (entriesOf route) slot.key value := by
  obtain ⟨taken, htaken, rfl⟩ := captures?_eq_some_iff.1 h
  rw [lookup_append_queryCaptures hnames (pathCaptures?_names htaken) hslot, lookup_entriesOf,
    head?_entriesFor_iff]

end Captures

/-- **What a pattern matches and takes.** A route is matched exactly where its path has as many
parts as the pattern has segments and each part fits its segment. A placeholder of the path then
has its part, one of the query has the value of the first entry of its key if there is one, and no
other name has anything. A route with the same path whose query comes to the same is matched
alike. -/
theorem matching_exact {text : String} {p : Pattern} (h : parse text = .ok p) (route : String) :
    ((∃ captures, p.captures? route = some captures) ↔
      p.segments.length = (partsOf route).length ∧
        ∀ i (hi : i < p.segments.length) (hi' : i < (partsOf route).length),
          p.segments[i].Fits (partsOf route)[i]) ∧
    (∀ captures, p.captures? route = some captures →
      (captures.map (·.1)).Nodup ∧
      (∀ (i : Nat) (name : String), p.segments[i]? = some (.placeholder name) →
        ∃ part, (partsOf route)[i]? = some part ∧
          captures.lookup name = some (String.ofList part)) ∧
      (∀ slot ∈ p.query, ∀ value, captures.lookup slot.placeholder = some value ↔
        FirstValue (entriesOf route) slot.key value) ∧
      ∀ name, name ∉ p.names → captures.lookup name = none) ∧
    ∀ route', partsOf route' = partsOf route →
      p.SameQuery (entriesOf route) (entriesOf route') →
        p.captures? route' = p.captures? route := by
  have hnames := names_nodup_of_parse h
  refine ⟨exists_captures?_iff, fun captures hcaptures => ?_, fun route' => captures?_congr⟩
  exact ⟨captures_names_nodup hnames hcaptures,
    fun i name => lookup_of_segment hnames hcaptures,
    fun slot => lookup_of_slot hnames hcaptures,
    fun name => lookup_of_not_mem_names hcaptures⟩

/-- Of a key that stands twice the first entry counts, and one without `=` has an empty value. The
same is taken where the entries change places and the others come and go, and nothing where a part
of the path is empty. -/
theorem matching_exact_list :
    let text := "list/{id}?page={page}&sort={sort}"
    let p : Pattern :=
      ⟨text, [.fixed "list", .placeholder "id"], [⟨"page", "page"⟩, ⟨"sort", "sort"⟩]⟩
    let route := "list/7?sort=a=b&&x=1&page&sort=c"
    let route' := "list/7?page&y&sort=a=b&sort=c"
    parse text = .ok p ∧ p.SameQuery (entriesOf route) (entriesOf route') ∧
      (∃ captures, p.captures? route = some captures ∧ p.captures? route' = some captures ∧
        captures.lookup "id" = some "7" ∧ captures.lookup "page" = some "" ∧
        FirstValue (entriesOf route) "sort" "a=b" ∧ captures.lookup "x" = none) ∧
      ¬ ∃ captures, p.captures? "list/?page=1" = some captures := by
  intro text p route route'
  have hparse : parse text = .ok p := by decide +kernel
  have hentries : entriesOf route =
      ["sort=a=b".toList] ++ [] :: ["x=1".toList, "page".toList, "sort=c".toList] := by
    decide +kernel
  have hentries' : entriesOf route' =
      ["page".toList] ++ "y".toList :: ["sort=a=b".toList, "sort=c".toList] := by
    decide +kernel
  have hunknown : ∀ name ∈ ["x=1".toList, "y".toList], ∀ slot ∈ p.query,
      entryKey name ≠ slot.key.toList := by decide +kernel
  have hkeys : entryKey "sort=a=b".toList ≠ entryKey "page".toList := by decide +kernel
  -- the empty entry goes, then `x`; the rest changes places, and `y` comes
  have hquery : p.SameQuery (entriesOf route) (entriesOf route') := by
    rw [hentries, hentries']
    have hempty : p.SameQuery
        (["sort=a=b".toList] ++ [] :: ["x=1".toList, "page".toList, "sort=c".toList])
        (["sort=a=b".toList] ++ "x=1".toList :: ["page".toList, "sort=c".toList]) :=
      .symm (.emptyEntry _ _)
    have hx : p.SameQuery
        (["sort=a=b".toList] ++ "x=1".toList :: ["page".toList, "sort=c".toList])
        ("sort=a=b".toList :: "page".toList :: ["sort=c".toList]) :=
      .symm (.unknownEntry ["sort=a=b".toList] _ (hunknown _ List.mem_cons_self))
    have hswap : p.SameQuery ("sort=a=b".toList :: "page".toList :: ["sort=c".toList])
        (["page".toList] ++ ["sort=a=b".toList, "sort=c".toList]) := .swap hkeys _
    exact hempty.trans (hx.trans (hswap.trans
      (.unknownEntry _ _ (hunknown _ (List.mem_cons_of_mem _ List.mem_cons_self)))))
  let captures : Captures := [("id", "7"), ("page", ""), ("sort", "a=b")]
  have hcaptures : p.captures? route = some captures := by decide +kernel
  obtain ⟨-, htakes, hsame⟩ := matching_exact hparse route
  obtain ⟨-, -, hslots, hothers⟩ := htakes captures hcaptures
  obtain ⟨hmatches, -, -⟩ := matching_exact hparse "list/?page=1"
  refine ⟨hparse, hquery, ⟨captures, hcaptures, ?_, by decide, by decide, ?_, ?_⟩, ?_⟩
  · rw [hsame route' (by decide +kernel) hquery, hcaptures]
  · exact (hslots ⟨"sort", "sort"⟩ (by decide) "a=b").1 (by decide)
  · exact hothers "x" (by decide +kernel)
  · rw [hmatches]
    rintro ⟨-, hfits⟩
    exact hfits 1 (by decide) (by decide +kernel) (by decide +kernel)

end Pattern

end ScreenRoutes
