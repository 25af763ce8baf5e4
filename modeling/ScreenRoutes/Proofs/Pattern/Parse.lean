import ScreenRoutes.Pattern.Basic
import ScreenRoutes.Proofs.WrittenRoute

/-!
# Reading patterns

`parse_eq_ok_iff` says all that reading a pattern checks. From it, a pattern keeps the text that it
was read from and has no placeholder twice. A screen's pattern reads back as its parts: a fixed
segment for each piece of the route's name, a placeholder for each required argument, and a query
entry for each optional one (`parse_pattern`), so that exactly the names of routable arguments are
placeholders (`generated_pattern_reads_back`).
-/

namespace ScreenRoutes

open Text

/-! ## Names of placeholders -/

def IsPlaceholderName (name : String) : Prop :=
  name ≠ "" ∧ ∀ c ∈ name.toList, isBrace c = false

theorem nameFault?_eq_none_iff {seen names : List String} :
    nameFault? seen names = none ↔
      (∀ name ∈ names, IsPlaceholderName name ∧ name ∉ seen) ∧ names.Nodup := by
  induction names generalizing seen with
  | nil => simp [nameFault?]
  | cons name names ih =>
    have hbad : (name.isEmpty || name.toList.any isBrace) = true ↔ ¬ IsPlaceholderName name := by
      simp only [IsPlaceholderName, Bool.or_eq_true, String.isEmpty_iff, List.any_eq_true,
        Bool.eq_false_iff, not_and, not_forall, not_not, exists_prop, ne_eq]
      exact or_iff_not_imp_left
    rw [nameFault?]
    split
    · next h =>
      have hn := hbad.1 h
      simp [hn]
    · next h =>
      have hn : IsPlaceholderName name := by_contra fun hn => h (hbad.2 hn)
      split
      · next hseen => simp [hseen]
      · next hseen =>
        rw [ih, List.forall_mem_cons, List.nodup_cons]
        constructor
        · rintro ⟨hall, hnodup⟩
          refine ⟨⟨⟨hn, hseen⟩, fun m hm => ⟨(hall m hm).1, ?_⟩⟩, ?_, hnodup⟩
          · exact fun hmem => (hall m hm).2 (List.mem_cons_of_mem _ hmem)
          · exact fun hmem => (hall name hmem).2 List.mem_cons_self
        · rintro ⟨⟨-, hall⟩, hnot, hnodup⟩
          refine ⟨fun m hm => ⟨(hall m hm).1, ?_⟩, hnodup⟩
          rw [List.mem_cons, not_or]
          refine ⟨?_, (hall m hm).2⟩
          rintro rfl
          exact hnot hm

/-! ## What reading checks -/

namespace Pattern

/-- The pattern that a text is taken apart into, with the given query. -/
def ofParts (text : String) (slots : List QuerySlot) : Pattern :=
  ⟨text, ((cut '?' text.toList).1.splitOn '/').map Segment.ofChars, slots⟩

/-- The pattern, if neither its names nor its segments have a fault. -/
def checked (p : Pattern) : Except PatternFault Pattern :=
  match nameFault? [] p.names with
  | some fault => .error fault
  | none => if p.segments.any Segment.isStray then .error .strayBrace else .ok p

theorem parse_eq (text : String) :
    parse text =
      if text.isEmpty then .error .emptyPattern
      else
        match slots? (cut '?' text.toList).2 with
        | none => .error .malformedEntry
        | some slots => (ofParts text slots).checked :=
  rfl

theorem checked_eq_ok_iff {p p' : Pattern} :
    p.checked = .ok p' ↔
      p' = p ∧ nameFault? [] p.names = none ∧ p.segments.any Segment.isStray = false := by
  rw [checked]
  cases hfault : nameFault? [] p.names with
  | some fault => simp
  | none =>
    cases hstray : p.segments.any Segment.isStray with
    | true => simp
    | false => simp [eq_comm]

theorem parse_eq_ok_iff {text : String} {p : Pattern} :
    parse text = .ok p ↔
      text ≠ "" ∧ (∃ slots, slots? (cut '?' text.toList).2 = some slots ∧ p = ofParts text slots) ∧
        nameFault? [] p.names = none ∧ p.segments.any Segment.isStray = false := by
  rw [parse_eq]
  by_cases hempty : text = ""
  · simp [hempty]
  · rw [if_neg (by rwa [String.isEmpty_iff])]
    cases hslots : slots? (cut '?' text.toList).2 with
    | none => simp
    | some slots =>
      simp only [checked_eq_ok_iff, Option.some.injEq, exists_eq_left']
      constructor
      · rintro ⟨rfl, hnames, hstray⟩
        exact ⟨hempty, rfl, hnames, hstray⟩
      · rintro ⟨-, rfl, hnames, hstray⟩
        exact ⟨rfl, hnames, hstray⟩

/-- A pattern keeps the text that it was read from. -/
theorem text_of_parse {text : String} {p : Pattern} (h : parse text = .ok p) : p.text = text := by
  obtain ⟨-, ⟨slots, -, rfl⟩, -⟩ := parse_eq_ok_iff.1 h
  rfl

/-- A pattern has the names of its placeholders. -/
theorem has_iff_mem_names {p : Pattern} {name : String} : p.has name ↔ name ∈ p.names := by
  have hsegment : (p.segments.any fun segment => segment.name? == some name) = true ↔
      name ∈ p.segments.filterMap Segment.name? := by
    simp only [List.any_eq_true, List.mem_filterMap, beq_iff_eq]
  have hslot : (p.query.any fun slot => slot.placeholder == name) = true ↔
      name ∈ p.query.map (·.placeholder) := by
    simp only [List.any_eq_true, List.mem_map, beq_iff_eq]
  rw [has, names, Bool.or_eq_true, List.mem_append, hsegment, hslot]

/-- No placeholder of a pattern stands twice. -/
theorem names_nodup_of_parse {text : String} {p : Pattern} (h : parse text = .ok p) :
    p.names.Nodup :=
  (nameFault?_eq_none_iff.1 (parse_eq_ok_iff.1 h).2.2.1).2

end Pattern

/-! ## The pattern of a screen -/

theorem mapM_map_eq_some {α β γ : Type} {f : α → β} {g : β → Option γ} {k : α → γ} {l : List α}
    (h : ∀ x ∈ l, g (f x) = some (k x)) : (l.map f).mapM g = some (l.map k) := by
  induction l with
  | nil => rfl
  | cons x l ih =>
    rw [List.forall_mem_cons] at h
    rw [List.map_cons, List.mapM_cons, h.1, ih h.2]
    rfl

theorem Segment.ofChars_braced (name : List Char) :
    Segment.ofChars ('\x7b' :: (name ++ ['\x7d'])) = .placeholder (String.ofList name) := by
  rw [Segment.ofChars, after?_cons_self, Option.bind_some, before?_append_singleton]

theorem Segment.ofChars_of_not_mem {cs : List Char} (h : '\x7b' ∉ cs) :
    Segment.ofChars cs = .fixed (String.ofList cs) := by
  rw [Segment.ofChars, after?_of_not_mem h, Option.bind_none]

theorem QuerySlot.ofChars?_entry {key : List Char} (hne : key ≠ []) (heq : '=' ∉ key)
    (name : List Char) :
    QuerySlot.ofChars? (key ++ '=' :: '\x7b' :: (name ++ ['\x7d'])) =
      some ⟨String.ofList key, String.ofList name⟩ := by
  rw [QuerySlot.ofChars?, cut_append_cons heq]
  simp [Segment.ofChars_braced, hne]

namespace Screen

/-- The text that the pattern has in the place of a parameter. -/
def placeholderText (p : Parameter) : String :=
  "\x7b" ++ p.name ++ "\x7d"

theorem toList_placeholderText (p : Parameter) :
    (placeholderText p).toList = '\x7b' :: (p.name.toList ++ ['\x7d']) := by
  simp [placeholderText]

def routeSegments (s : Screen) : List Segment :=
  (s.route.toList.splitOn '/').map fun piece => .fixed (String.ofList piece)

def parts (s : Screen) : Pattern where
  text := s.pattern
  segments := s.routeSegments ++ s.required.map fun p => .placeholder p.name
  query := s.optional.map fun p => ⟨p.name, p.name⟩

theorem names_parts (s : Screen) : s.parts.names = s.carried.map (·.name) := by
  have hroute : s.routeSegments.filterMap Segment.name? = [] := by
    rw [routeSegments, List.filterMap_map]
    exact List.filterMap_eq_nil_iff.2 fun _ _ => rfl
  have hrequired : (s.required.map fun p => Segment.placeholder p.name).filterMap Segment.name? =
      s.required.map (·.name) := by
    simp [List.filterMap_map, Function.comp_def, Segment.name?]
  rw [Pattern.names, parts, List.filterMap_append, hroute, hrequired, carried, List.map_append,
    List.map_map]
  rfl

variable {s : Screen} (h : s.WellNamed)
include h

theorem map_ofChars_route :
    (s.route.toList.splitOn '/').map Segment.ofChars = s.routeSegments :=
  List.map_congr_left fun _ hpiece =>
    Segment.ofChars_of_not_mem fun hmem =>
      h.route_free '\x7b' (by decide) (mem_of_mem_splitOn hpiece hmem)

/-- The segments of the pattern's path, as they are read. -/
theorem map_ofChars_path :
    ((['/'].intercalate (s.pathTexts placeholderText)).splitOn '/').map Segment.ofChars =
      s.parts.segments := by
  have hslash : ∀ p ∈ s.required, '/' ∉ (placeholderText p).toList := fun p hp => by
    have hname := h.not_mem_name (List.mem_append_left _ hp) (c := '/') (by decide)
    simp [toList_placeholderText, hname]
  rw [splitOn_pathTexts hslash, List.map_append, map_ofChars_route h, List.map_map]
  congr 1
  refine List.map_congr_left fun p _ => ?_
  rw [Function.comp_apply, toList_placeholderText, Segment.ofChars_braced, String.ofList_toList]

/-- The query of the pattern, as it is read. -/
theorem slots?_query : Pattern.slots? (s.queryText? placeholderText) = some s.parts.query := by
  rw [queryText?]
  split
  · next hempty =>
    simp [Pattern.slots?, parts, List.isEmpty_iff.1 hempty]
  · next hne =>
    have hmarks {c : Char} (hc : c ∈ routeMarks) : ∀ p ∈ s.optional, c ∉ p.name.toList :=
      fun p hp => h.not_mem_name (List.mem_append_right _ hp) hc
    have hamp : ∀ p ∈ s.optional, '&' ∉ (placeholderText p).toList := fun p hp => by
      simp [toList_placeholderText, hmarks (c := '&') (by decide) p hp]
    rw [Pattern.slots?, splitOn_queryText (by simpa using hne) (hmarks (by decide)) hamp]
    refine mapM_map_eq_some fun p hp => ?_
    have hkey : p.name.toList ≠ [] := by
      simpa using h.carried_name_ne_empty (List.mem_append_right _ hp)
    have hentry := QuerySlot.ofChars?_entry hkey (hmarks (by decide) p hp) p.name.toList
    rw [entryText, toList_placeholderText, hentry, String.ofList_toList]

theorem pattern_ne_empty : s.pattern ≠ "" := by
  intro hempty
  have hchars : (s.written placeholderText).toList = [] := by
    rw [← String.toList_eq_nil_iff.2 hempty, pattern_eq_written]
    rfl
  rw [toList_written, List.append_eq_nil_iff, pathTexts] at hchars
  have hroute : s.route.toList ≠ [] := by simpa using h.route_ne_empty
  cases hrequired : s.required with
  | nil => simp [hrequired, hroute] at hchars
  | cons p ps => simp [hrequired, List.intercalate_cons_cons] at hchars

theorem isPlaceholderName {p : Parameter} (hp : p ∈ s.carried) : IsPlaceholderName p.name := by
  refine ⟨h.carried_name_ne_empty hp, fun c hc => ?_⟩
  rw [isBrace, Bool.or_eq_false_iff, beq_eq_false_iff_ne, beq_eq_false_iff_ne]
  refine ⟨?_, ?_⟩
  · rintro rfl
    exact h.not_mem_name hp (by decide) hc
  · rintro rfl
    exact h.not_mem_name hp (by decide) hc

theorem parts_not_stray : s.parts.segments.any Segment.isStray = false := by
  rw [List.any_eq_false]
  intro segment hsegment
  rw [parts, List.mem_append, routeSegments, List.mem_map, List.mem_map] at hsegment
  rcases hsegment with ⟨piece, hpiece, rfl⟩ | ⟨p, -, rfl⟩
  · rw [Segment.isStray, String.toList_ofList, List.any_eq_true]
    rintro ⟨c, hc, hbrace⟩
    have hmem := mem_of_mem_splitOn hpiece hc
    rw [isBrace, Bool.or_eq_true, beq_iff_eq, beq_iff_eq] at hbrace
    rcases hbrace with rfl | rfl
    · exact h.route_free _ (by decide) hmem
    · exact h.route_free _ (by decide) hmem
  · simp [Segment.isStray]

/-- **A screen's pattern reads back as its parts.** -/
theorem parse_pattern : Pattern.parse s.pattern = .ok s.parts := by
  have hcut : cut '?' s.pattern.toList =
      (['/'].intercalate (s.pathTexts placeholderText), s.queryText? placeholderText) := by
    rw [pattern_eq_written]
    refine cut_written (h.route_free '?' (by decide)) fun p hp => ?_
    have hname := h.not_mem_name (List.mem_append_left _ hp) (c := '?') (by decide)
    simp [hname]
  rw [Pattern.parse_eq_ok_iff, hcut, slots?_query h]
  refine ⟨pattern_ne_empty h, ⟨_, rfl, ?_⟩, ?_, parts_not_stray h⟩
  · rw [Pattern.ofParts, hcut, map_ofChars_path h]
    rfl
  · rw [names_parts, nameFault?_eq_none_iff, List.forall_mem_map]
    refine ⟨fun p hp => ⟨isPlaceholderName h hp, List.not_mem_nil⟩, ?_⟩
    exact carried_names_nodup h.names_nodup

omit h in
/-- The names in a screen's pattern are those of its routable parameters. -/
theorem has_parts_iff {name : String} :
    s.parts.has name ↔ ∃ p ∈ s.params, p.role.isRoutable ∧ p.name = name := by
  rw [Pattern.has_iff_mem_names, names_parts, List.mem_map]
  constructor
  · rintro ⟨p, hp, hname⟩
    obtain ⟨hparam, hroutable⟩ := mem_routable.1 (mem_carried.1 hp)
    exact ⟨p, hparam, hroutable, hname⟩
  · rintro ⟨p, hparam, hroutable, hname⟩
    exact ⟨p, mem_carried.2 (mem_routable.2 ⟨hparam, hroutable⟩), hname⟩

end Screen

/-- **What is written as a screen's pattern is read back.** Its segments are the pieces of the
route's name, which may hold slashes, and the required arguments; its query has the optional
arguments, each under its own name; and it has the names of routable parameters and no others. -/
theorem generated_pattern_reads_back {s : Screen} (h : s.WellNamed) :
    ∃ p, Pattern.parse s.pattern = .ok p ∧
      p.text = s.pattern ∧
      p.segments = ((s.route.toList.splitOn '/').map fun piece => .fixed (String.ofList piece)) ++
        s.required.map (fun q => .placeholder q.name) ∧
      p.query = s.optional.map (fun q => ⟨q.name, q.name⟩) ∧
      ∀ name, p.has name ↔ ∃ q ∈ s.params, q.role.isRoutable ∧ q.name = name :=
  ⟨s.parts, Screen.parse_pattern h, rfl, rfl, rfl, fun _ => Screen.has_parts_iff⟩

/-- A route whose name has slashes, one of them at its end, with arguments in the query alone. -/
theorem generated_pattern_reads_back_slashes :
    let s : Screen := ⟨"user//edit/", "EditScreen", "app", none,
      [⟨"nav", .handle, "NavController"⟩, ⟨"q", .string true none, "String?"⟩,
        ⟨"page", .int (some 1), "Int"⟩]⟩
    s.WellNamed ∧ s.pattern = "user//edit/?q={q}&page={page}" ∧
      ∃ p, Pattern.parse s.pattern = .ok p ∧
        p.segments = [.fixed "user", .fixed "", .fixed "edit", .fixed ""] ∧
        p.query = [⟨"q", "q"⟩, ⟨"page", "page"⟩] ∧
        p.has "page" ∧ ¬ p.has "nav" := by
  intro s
  have hnamed : s.WellNamed := by decide +kernel
  obtain ⟨p, hparse, -, hsegments, hquery, hhas⟩ := generated_pattern_reads_back hnamed
  refine ⟨hnamed, by decide +kernel, p, hparse, ?_, hquery, (hhas "page").2 ?_, ?_⟩
  · rw [hsegments]
    decide +kernel
  · exact ⟨⟨"page", .int (some 1), "Int"⟩, by decide, rfl, rfl⟩
  · rw [hhas]
    decide

end ScreenRoutes
