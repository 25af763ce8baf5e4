import ScreenRoutes.Proofs.Pattern.Grammar
import ScreenRoutes.Proofs.Pattern.Matching

/-!
# Matching filled patterns

A pattern that was read, filled with texts that leave its marks alone, matches the route that this
gives (`captures?_fill`), and every placeholder of the path takes its own text. A placeholder of the
query takes the text of the first entry with its key, so all of them take their own texts exactly
where no key stands twice, which reading a pattern does not ask for (`fill_taken_back_iff`).
-/

namespace ScreenRoutes

open Text

namespace Pattern

/-! ## Texts for placeholders -/

/-- Whether `v`'s texts can be told from the rest of a route: a text in the path is not empty and
has neither `/` nor `?`, and one in the query has no `&`. -/
structure Admits (p : Pattern) (v : String → String) : Prop where
  path : ∀ name ∈ p.segments.filterMap Segment.name?,
    v name ≠ "" ∧ '/' ∉ (v name).toList ∧ '?' ∉ (v name).toList
  query : ∀ slot ∈ p.query, '&' ∉ (v slot.placeholder).toList

/-- Whether the route matches, each placeholder takes `v`'s text for it, and nothing else is
taken. -/
def TakesBack (p : Pattern) (route : String) (v : String → String) : Prop :=
  ∃ captures, p.captures? route = some captures ∧
    ∀ name, captures.lookup name = if name ∈ p.names then some (v name) else none

/-! ## Patterns that were read -/

theorem exists_of_mem_mapM {α β : Type} {f : α → Option β} {l : List α} {r : List β}
    (h : l.mapM f = some r) {b : β} (hb : b ∈ r) : ∃ a ∈ l, f a = some b := by
  induction l generalizing r with
  | nil =>
    obtain rfl := Option.some.inj h
    cases hb
  | cons a l ih =>
    obtain ⟨c, cs, hc, hcs, rfl⟩ := mapM_cons_eq_some_iff.1 h
    rcases List.mem_cons.1 hb with rfl | hb
    · exact ⟨a, List.mem_cons_self, hc⟩
    · obtain ⟨a', ha', hread⟩ := ih hcs hb
      exact ⟨a', List.mem_cons_of_mem _ ha', hread⟩

theorem not_mem_of_mem_entriesOf {text : String} {entry : List Char}
    (h : entry ∈ entriesOf text) : '&' ∉ entry := by
  rw [entriesOf] at h
  cases hcut : (cut '?' text.toList).2 with
  | none =>
    rw [hcut] at h
    cases h
  | some query =>
    rw [hcut] at h
    exact not_mem_of_mem_splitOn h

section Read

variable {text : String} {p : Pattern} (h : parse text = .ok p)
include h

theorem segments_ne_nil_of_parse : p.segments ≠ [] := by
  obtain ⟨-, ⟨slots, -, rfl⟩, -⟩ := parse_eq_ok_iff.1 h
  simp [ofParts]

/-- Fixed text comes from one part of the path, so it holds no mark that ends a part. -/
theorem not_mem_fixed_of_parse {t : String} (ht : .fixed t ∈ p.segments) :
    '/' ∉ t.toList ∧ '?' ∉ t.toList := by
  obtain ⟨-, ⟨slots, -, rfl⟩, -⟩ := parse_eq_ok_iff.1 h
  obtain ⟨part, hpart, hsegment⟩ := List.mem_map.1 ht
  have hcs : part = t.toList := by
    rcases Segment.ofChars_cases part with ⟨name, -, hread⟩ | ⟨-, hread⟩
    · rw [hread] at hsegment
      cases hsegment
    · rw [hread] at hsegment
      rw [← Segment.fixed.inj hsegment, String.toList_ofList]
  subst hcs
  exact ⟨not_mem_of_mem_splitOn hpart,
    fun hmem => not_mem_cut '?' text.toList (mem_of_mem_splitOn hpart hmem)⟩

/-- A key comes from in front of the first `=` of one entry. -/
theorem not_mem_key_of_parse {slot : QuerySlot} (hslot : slot ∈ p.query) :
    '=' ∉ slot.key.toList ∧ '&' ∉ slot.key.toList := by
  obtain ⟨-, ⟨slots, hslots, rfl⟩, -⟩ := parse_eq_ok_iff.1 h
  rw [slots?_eq_mapM] at hslots
  obtain ⟨entry, hentry, hread⟩ := exists_of_mem_mapM hslots hslot
  obtain ⟨-, heq, rfl⟩ := QuerySlot.ofChars?_eq_some_iff.1 hread
  have hamp := not_mem_of_mem_entriesOf hentry
  rw [List.mem_append, not_or] at hamp
  exact ⟨heq, hamp.1⟩

end Read

/-! ## The route of a filled pattern -/

/-- A path takes back the texts with which it was filled. -/
theorem pathCaptures?_filled {segments : List Segment} {v : String → String}
    (hne : ∀ name ∈ segments.filterMap Segment.name?, v name ≠ "") :
    pathCaptures? segments (segments.map (·.filled v)) =
      some ((segments.filterMap Segment.name?).map fun name => (name, v name)) := by
  induction segments with
  | nil => rfl
  | cons s segments ih =>
    cases s with
    | fixed t =>
      rw [List.filterMap_cons_none rfl] at hne ⊢
      rw [List.map_cons, Segment.filled, pathCaptures?, if_pos rfl]
      exact ih hne
    | placeholder name =>
      rw [List.filterMap_cons_some (Segment.name?_placeholder name)] at hne ⊢
      rw [List.forall_mem_cons] at hne
      rw [List.map_cons, Segment.filled, pathCaptures?, if_neg (by simpa using hne.1), ih hne.2]
      simp

section Fill

variable {text : String} {p : Pattern} {v : String → String} (h : parse text = .ok p)
  (hv : p.Admits v)
include h hv

/-- No mark of a path stands inside a part of a filled one. -/
theorem not_mem_filled {s : Segment} (hs : s ∈ p.segments) :
    '/' ∉ s.filled v ∧ '?' ∉ s.filled v := by
  cases s with
  | fixed t => exact not_mem_fixed_of_parse h hs
  | placeholder name => exact (hv.path name (List.mem_filterMap.2 ⟨_, hs, rfl⟩)).2

theorem cut_fill :
    cut '?' (p.fill v).toList =
      (['/'].intercalate (p.segments.map (·.filled v)), p.filledQuery? v) := by
  have hpath : '?' ∉ ['/'].intercalate (p.segments.map (·.filled v)) := by
    refine not_mem_intercalate (by decide) fun part hpart => ?_
    obtain ⟨s, hs, rfl⟩ := List.mem_map.1 hpart
    exact (not_mem_filled h hv hs).2
  rw [toList_fill]
  cases p.filledQuery? v with
  | none =>
    rw [Option.elim_none, List.append_nil]
    exact cut_of_not_mem hpath
  | some query => exact cut_append_cons hpath query

theorem splitOn_fill :
    (['/'].intercalate (p.segments.map (·.filled v))).splitOn '/' =
      p.segments.map (·.filled v) := by
  refine List.splitOn_intercalate '/' (fun part hpart => ?_) ?_
  · obtain ⟨s, hs, rfl⟩ := List.mem_map.1 hpart
    exact (not_mem_filled h hv hs).1
  · simpa using segments_ne_nil_of_parse h

/-- The entries of a filled query are its keys, each with the text that stands for its
placeholder. -/
theorem queryEntries_fill :
    queryEntries ((p.filledQuery? v).getD []) = p.query.map fun s => (s.key, v s.placeholder) := by
  rw [filledQuery?]
  split
  · next hempty => simp [queryEntries, List.isEmpty_iff.1 hempty]
  · next hne =>
    have hamp : ∀ entry ∈ p.query.map (·.filled v), '&' ∉ entry := by
      intro entry hentry
      obtain ⟨slot, hslot, rfl⟩ := List.mem_map.1 hentry
      simp [QuerySlot.filled, (not_mem_key_of_parse h hslot).2, hv.query slot hslot]
    have hfull : ∀ entry ∈ p.query.map (·.filled v), (!entry.isEmpty) = true := by
      simp [QuerySlot.filled]
    rw [Option.getD_some, queryEntries, List.splitOn_intercalate '&' hamp (by simpa using hne),
      List.filter_eq_self.2 hfull, List.map_map]
    refine List.map_congr_left fun slot hslot => ?_
    rw [Function.comp_apply, QuerySlot.filled, cut_append_cons (not_mem_key_of_parse h hslot).1]
    simp

/-- **A filled pattern matches**: the path takes back its texts, and the query what the entries of
the route have for its keys. -/
theorem captures?_fill :
    p.captures? (p.fill v) =
      some (((p.segments.filterMap Segment.name?).map fun name => (name, v name)) ++
        queryCaptures p.query (p.query.map fun s => (s.key, v s.placeholder))) := by
  rw [captures?, cut_fill h hv]
  have hpath := pathCaptures?_filled fun name hname => (hv.path name hname).1
  simp only [splitOn_fill h hv, hpath, queryEntries_fill h hv, Option.map_some]

end Fill

/-! ## What the placeholders take -/

section Lookup

variable {p : Pattern} (hnames : p.names.Nodup) (v : String → String) (query : Captures)
include hnames

/-- A placeholder of the path has its own text among what is taken. -/
theorem lookup_path {name : String} (hname : name ∈ p.segments.filterMap Segment.name?) :
    (((p.segments.filterMap Segment.name?).map fun name => (name, v name)) ++ query).lookup name =
      some (v name) := by
  rw [names, List.nodup_append] at hnames
  have hkeys : ((p.segments.filterMap Segment.name?).map id).Nodup := by
    rw [List.map_id]
    exact hnames.1
  have hself : ((p.segments.filterMap Segment.name?).map fun name => (id name, v name)).lookup
      (id name) = some (v name) := lookup_map_of_mem hkeys hname
  rw [List.lookup_append]
  simp only [id_eq] at hself
  rw [hself, Option.some_or]

/-- A placeholder of the query has the text of the first entry with its key. -/
theorem lookup_slot {slot : QuerySlot} (hslot : slot ∈ p.query) (entries : List (String × String)) :
    (((p.segments.filterMap Segment.name?).map fun name => (name, v name)) ++
        queryCaptures p.query entries).lookup slot.placeholder = entries.lookup slot.key :=
  lookup_append_queryCaptures hnames (by simp [Function.comp_def]) hslot entries

end Lookup

/-- Whatever the texts, a filled pattern matches and its path takes back what is its own. -/
theorem fill_matches {text : String} {p : Pattern} (h : parse text = .ok p) {v : String → String}
    (hv : p.Admits v) :
    ∃ captures, p.captures? (p.fill v) = some captures ∧
      ∀ name ∈ p.segments.filterMap Segment.name?, captures.lookup name = some (v name) :=
  ⟨_, captures?_fill h hv, fun _ hname => lookup_path (names_nodup_of_parse h) v _ hname⟩

/-- All texts are taken back where each slot of the query finds its own. -/
theorem takesBack_fill_iff {text : String} {p : Pattern} (h : parse text = .ok p)
    {v : String → String} (hv : p.Admits v) :
    p.TakesBack (p.fill v) v ↔ ∀ slot ∈ p.query,
      (p.query.map fun s => (s.key, v s.placeholder)).lookup slot.key =
        some (v slot.placeholder) := by
  have hnodup := names_nodup_of_parse h
  have hfill := captures?_fill h hv
  constructor
  · rintro ⟨captures, hcaptures, htaken⟩ slot hslot
    obtain rfl := Option.some.inj (hcaptures.symm.trans hfill)
    have hname : slot.placeholder ∈ p.names := by
      rw [names, List.mem_append]
      exact .inr (List.mem_map_of_mem hslot)
    rw [← lookup_slot hnodup v hslot, htaken, if_pos hname]
  · intro hslots
    refine ⟨_, hfill, fun name => ?_⟩
    split
    · next hname =>
      rw [names, List.mem_append] at hname
      rcases hname with hname | hname
      · exact lookup_path hnodup v _ hname
      · obtain ⟨slot, hslot, rfl⟩ := List.mem_map.1 hname
        rw [lookup_slot hnodup v hslot, hslots slot hslot]
    · next hname => exact lookup_of_not_mem_names hfill hname

/-- **Filling is undone by matching exactly where no key of the query stands twice.** Either way a
filled pattern matches, and its path takes back its own texts. -/
theorem fill_taken_back_iff {text : String} {p : Pattern} (h : parse text = .ok p) :
    ((p.query.map (·.key)).Nodup ↔ ∀ v, p.Admits v → p.TakesBack (p.fill v) v) ∧
      ∀ v, p.Admits v → ∃ captures, p.captures? (p.fill v) = some captures ∧
        ∀ name ∈ p.segments.filterMap Segment.name?, captures.lookup name = some (v name) := by
  refine ⟨⟨fun hkeys v hv => ?_, fun hback => ?_⟩, fun v hv => fill_matches h hv⟩
  · rw [takesBack_fill_iff h hv]
    exact fun slot hslot => lookup_map_of_mem hkeys hslot
  · have hplaceholders : (p.query.map (·.placeholder)).Nodup :=
      (names_nodup_of_parse h).sublist (List.sublist_append_right _ _)
    refine List.Nodup.map_on (fun slot hslot other hother hkey => ?_) (hplaceholders.of_map _)
    refine List.inj_on_of_nodup_map hplaceholders hslot hother (by_contra fun hne => ?_)
    -- the two slots share a key, so they take one text where `v` has two
    let v : String → String := fun name => if name = slot.placeholder then "a" else "b"
    have hv : p.Admits v := by
      constructor
      · intro name _
        by_cases hname : name = slot.placeholder <;> simp [v, hname]
      · intro s _
        by_cases hname : s.placeholder = slot.placeholder <;> simp [v, hname]
    have hlookup := (takesBack_fill_iff h hv).1 (hback v hv)
    have hsame := (hlookup slot hslot).symm.trans (hkey ▸ hlookup other hother)
    simp [v, Ne.symm hne] at hsame

/-- Of a key that stands twice both placeholders take the first text, which may hold `=` and `?`;
the path takes back its own. -/
theorem fill_repeated_key :
    let text := "user/{id}?q={a}&q={b}"
    let p : Pattern :=
      ⟨text, [.fixed "user", .placeholder "id"], [⟨"q", "a"⟩, ⟨"q", "b"⟩]⟩
    parse text = .ok p ∧ (∃ v, p.Admits v ∧ ¬ p.TakesBack (p.fill v) v) ∧
      ∃ captures, p.captures? "user/7?q=1=?&q=2" = some captures ∧
        captures.lookup "id" = some "7" := by
  intro text p
  have hparse : parse text = .ok p := by decide +kernel
  obtain ⟨hback, hpath⟩ := fill_taken_back_iff hparse
  have hrepeated : ¬ (p.query.map (·.key)).Nodup := by decide +kernel
  have hno : ∃ v, p.Admits v ∧ ¬ p.TakesBack (p.fill v) v := by
    by_contra hall
    exact hrepeated (hback.2 fun v hv => by_contra fun hno => hall ⟨v, hv, hno⟩)
  let v : String → String := fun name =>
    if name = "id" then "7" else if name = "a" then "1=?" else "2"
  have hv : p.Admits v := ⟨by decide +kernel, by decide +kernel⟩
  have hfill : p.fill v = "user/7?q=1=?&q=2" := by decide +kernel
  have hid : v "id" = "7" := by decide +kernel
  obtain ⟨captures, hcaptures, htaken⟩ := hpath v hv
  rw [hfill] at hcaptures
  exact ⟨hparse, hno, captures, hcaptures, hid ▸ htaken "id" (by decide +kernel)⟩

end Pattern

end ScreenRoutes
