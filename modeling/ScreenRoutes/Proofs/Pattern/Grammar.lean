import ScreenRoutes.Proofs.Pattern.Parse

/-!
# The grammar of patterns

Which texts are patterns, said without regard to how they are read: the path in front of the first
`?` has parts that are free of braces or are a name between them, the query behind it has entries
`key={name}`, and no name stands twice. Exactly these texts are read, and a pattern that was read is
written as the text that it came from (`parse_succeeds_iff`).
-/

namespace ScreenRoutes

open Text

/-! ## Texts of patterns -/

def IsBraceFree (cs : List Char) : Prop :=
  ∀ c ∈ cs, isBrace c = false

def braced (cs : List Char) : List Char :=
  '\x7b' :: (cs ++ ['\x7d'])

/-- The names in the parts of a path: each part is free of braces, or it is a name between them that
is not empty and has no brace itself. -/
inductive PathNames : (parts : List (List Char)) → (names : List String) → Prop
  | nil : PathNames [] []
  | fixed {part parts names} :
      IsBraceFree part → PathNames parts names → PathNames (part :: parts) names
  | placeholder {name parts names} :
      IsPlaceholderName name → PathNames parts names →
        PathNames (braced name.toList :: parts) (name :: names)

/-- The names in the entries of a query: each entry is a key that is not empty, `=`, and a name
between braces. -/
inductive QueryNames : (entries : List (List Char)) → (names : List String) → Prop
  | nil : QueryNames [] []
  | entry {key name entries names} :
      key ≠ [] → '=' ∉ key → IsPlaceholderName name → QueryNames entries names →
        QueryNames ((key ++ '=' :: braced name.toList) :: entries) (name :: names)

/-- The parts of the path in front of the first `?`. -/
def Pattern.partsOf (text : String) : List (List Char) :=
  (cut '?' text.toList).1.splitOn '/'

/-- The entries of the query behind the first `?`; none where there is no `?`. -/
def Pattern.entriesOf (text : String) : List (List Char) :=
  (cut '?' text.toList).2.elim [] (·.splitOn '&')

def IsPatternText (text : String) : Prop :=
  text ≠ "" ∧ ∃ path query, PathNames (Pattern.partsOf text) path ∧
    QueryNames (Pattern.entriesOf text) query ∧
    (path ++ query).Nodup

/-! ## Segments -/

@[simp] theorem Segment.name?_placeholder (name : String) : (placeholder name).name? = some name :=
  rfl

theorem isStray_fixed_iff {text : String} :
    (Segment.fixed text).isStray = false ↔ IsBraceFree text.toList := by
  simp [Segment.isStray, IsBraceFree]

/-- A name between braces is read as a placeholder, and everything else as fixed text. -/
theorem Segment.ofChars_cases (cs : List Char) :
    (∃ name : String, cs = braced name.toList ∧ ofChars cs = .placeholder name) ∨
      (∀ name, cs ≠ braced name) ∧ ofChars cs = .fixed (String.ofList cs) := by
  rw [ofChars]
  cases hname : (after? ['\x7b'] cs).bind (before? '\x7d') with
  | some name =>
    obtain ⟨rest, hrest, hbefore⟩ := Option.bind_eq_some_iff.1 hname
    refine .inl ⟨String.ofList name, ?_, rfl⟩
    rw [after?_singleton_eq_some_iff.1 hrest, before?_eq_some_iff.1 hbefore, String.toList_ofList]
    rfl
  | none =>
    refine .inr ⟨?_, rfl⟩
    rintro name rfl
    rw [braced, after?_cons_self, Option.bind_some, before?_append_singleton] at hname
    cases hname

theorem Segment.ofChars_of_isBraceFree {cs : List Char} (h : IsBraceFree cs) :
    ofChars cs = .fixed (String.ofList cs) :=
  ofChars_of_not_mem fun hmem => absurd (h _ hmem) (by decide)

/-- A path of the grammar is read with its names, and no brace is left over. -/
theorem PathNames.read {parts : List (List Char)} {names : List String} (h : PathNames parts names) :
    (parts.map Segment.ofChars).filterMap Segment.name? = names ∧
      (parts.map Segment.ofChars).any Segment.isStray = false ∧
      ∀ name ∈ names, IsPlaceholderName name := by
  induction h with
  | nil => simp
  | @fixed part parts names hfree _ ih =>
    obtain ⟨hnames, hstray, hfit⟩ := ih
    have hpart : (Segment.fixed (String.ofList part)).isStray = false := by
      rwa [isStray_fixed_iff, String.toList_ofList]
    rw [List.map_cons, Segment.ofChars_of_isBraceFree hfree, List.filterMap_cons_none rfl,
      List.any_cons, hpart, Bool.false_or]
    exact ⟨hnames, hstray, hfit⟩
  | @placeholder name parts names hname _ ih =>
    obtain ⟨hnames, hstray, hfit⟩ := ih
    rw [List.map_cons, braced, Segment.ofChars_braced, String.ofList_toList,
      List.filterMap_cons_some (Segment.name?_placeholder name), hnames, List.any_cons, hstray]
    exact ⟨rfl, rfl, List.forall_mem_cons.2 ⟨hname, hfit⟩⟩

/-- A path whose names are fit for placeholders, and which has no stray brace, is one of the
grammar. -/
theorem pathNames_of_read {parts : List (List Char)}
    (hfit : ∀ name ∈ (parts.map Segment.ofChars).filterMap Segment.name?, IsPlaceholderName name)
    (hstray : (parts.map Segment.ofChars).any Segment.isStray = false) :
    PathNames parts ((parts.map Segment.ofChars).filterMap Segment.name?) := by
  induction parts with
  | nil => exact .nil
  | cons part parts ih =>
    rw [List.map_cons, List.any_cons, Bool.or_eq_false_iff] at hstray
    rw [List.map_cons] at hfit ⊢
    rcases Segment.ofChars_cases part with ⟨name, rfl, hsegment⟩ | ⟨-, hsegment⟩
    · rw [hsegment, List.filterMap_cons_some (Segment.name?_placeholder name)] at hfit ⊢
      rw [List.forall_mem_cons] at hfit
      exact .placeholder hfit.1 (ih hfit.2 hstray.2)
    · rw [hsegment, List.filterMap_cons_none rfl] at hfit ⊢
      rw [hsegment, isStray_fixed_iff, String.toList_ofList] at hstray
      exact .fixed hstray.1 (ih hfit hstray.2)

/-! ## Entries -/

/-- An entry is read as the key in front of its first `=` and the name between the braces behind
it. -/
theorem QuerySlot.ofChars?_eq_some_iff {cs : List Char} {slot : QuerySlot} :
    ofChars? cs = some slot ↔
      slot.key ≠ "" ∧ '=' ∉ slot.key.toList ∧
        cs = slot.key.toList ++ '=' :: braced slot.placeholder.toList := by
  constructor
  · intro h
    rw [ofChars?] at h
    split at h
    · next key value hcut =>
      obtain ⟨hkey, rfl⟩ := cut_eq_some_iff.1 hcut
      rcases Segment.ofChars_cases value with ⟨name, rfl, hsegment⟩ | ⟨-, hsegment⟩
      · rw [hsegment] at h
        by_cases hempty : key = []
        · simp [hempty] at h
        · simp only [List.isEmpty_iff, hempty, if_false] at h
          obtain rfl := Option.some.inj h
          simp [hempty, hkey]
      · rw [hsegment] at h
        cases h
    · cases h
  · rintro ⟨hne, heq, rfl⟩
    have hkey : slot.key.toList ≠ [] := by simpa using hne
    rw [braced, ofChars?_entry hkey heq, String.ofList_toList, String.ofList_toList]

/-- A query of the grammar is read with its names. -/
theorem QueryNames.read {entries : List (List Char)} {names : List String}
    (h : QueryNames entries names) :
    ∃ slots, entries.mapM QuerySlot.ofChars? = some slots ∧ slots.map (·.placeholder) = names ∧
      ∀ name ∈ names, IsPlaceholderName name := by
  induction h with
  | nil => exact ⟨[], rfl, rfl, List.forall_mem_nil _⟩
  | @entry key name entries names hne heq hname _ ih =>
    obtain ⟨slots, hslots, rfl, hfit⟩ := ih
    have hentry := QuerySlot.ofChars?_entry hne heq name.toList
    rw [String.ofList_toList] at hentry
    refine ⟨⟨String.ofList key, name⟩ :: slots, ?_, rfl, List.forall_mem_cons.2 ⟨hname, hfit⟩⟩
    rw [List.mapM_cons, braced, hentry, hslots]
    rfl

theorem mapM_cons_eq_some_iff {α β : Type} {f : α → Option β} {a : α} {l : List α} {r : List β} :
    (a :: l).mapM f = some r ↔ ∃ b bs, f a = some b ∧ l.mapM f = some bs ∧ r = b :: bs := by
  rw [List.mapM_cons]
  cases f a with
  | none => simp
  | some b => cases l.mapM f <;> simp [eq_comm]

/-- Entries whose names are fit for placeholders make a query of the grammar. -/
theorem queryNames_of_read {entries : List (List Char)} {slots : List QuerySlot}
    (h : entries.mapM QuerySlot.ofChars? = some slots)
    (hfit : ∀ name ∈ slots.map (·.placeholder), IsPlaceholderName name) :
    QueryNames entries (slots.map (·.placeholder)) := by
  induction entries generalizing slots with
  | nil =>
    obtain rfl := Option.some.inj h
    exact .nil
  | cons entry entries ih =>
    obtain ⟨slot, slots, hslot, hslots, rfl⟩ := mapM_cons_eq_some_iff.1 h
    rw [List.map_cons, List.forall_mem_cons] at hfit
    obtain ⟨hne, heq, rfl⟩ := QuerySlot.ofChars?_eq_some_iff.1 hslot
    exact .entry (by simpa using hne) heq hfit.1 (ih hslots hfit.2)

/-! ## Writing -/

/-- The characters of a segment with `v`'s text in the place of a placeholder. -/
def Segment.filled (v : String → String) : Segment → List Char
  | .placeholder name => (v name).toList
  | .fixed text => text.toList

/-- The characters of an entry with `v`'s text in the place of the placeholder. -/
def QuerySlot.filled (v : String → String) (s : QuerySlot) : List Char :=
  s.key.toList ++ '=' :: (v s.placeholder).toList

/-- What stands for a placeholder in a pattern. -/
def inBraces (name : String) : String :=
  "\x7b" ++ name ++ "\x7d"

theorem Segment.filled_inBraces_ofChars (cs : List Char) : (ofChars cs).filled inBraces = cs := by
  rcases ofChars_cases cs with ⟨name, rfl, hsegment⟩ | ⟨-, hsegment⟩
  · rw [hsegment]
    simp [filled, inBraces, braced]
  · rw [hsegment, filled, String.toList_ofList]

theorem QuerySlot.filled_inBraces_of_ofChars? {cs : List Char} {slot : QuerySlot}
    (h : ofChars? cs = some slot) : slot.filled inBraces = cs := by
  obtain ⟨-, -, rfl⟩ := ofChars?_eq_some_iff.1 h
  simp [filled, inBraces, braced]

namespace Pattern

theorem toList_joined (sep : String) (texts : List String) :
    (joined sep texts).toList = sep.toList.intercalate (texts.map String.toList) := by
  induction texts with
  | nil => simp [joined]
  | cons text texts ih =>
    cases texts with
    | nil => simp [joined]
    | cons next texts =>
      rw [joined, toList_concat] at ih ⊢
      rw [List.map_cons, List.map_cons, List.intercalate_cons_cons, ← List.map_cons, ← ih]
      simp [List.intersperse]

/-- The query of a filled pattern behind the `?`; none where the pattern has no query. -/
def filledQuery? (p : Pattern) (v : String → String) : Option (List Char) :=
  if p.query.isEmpty then none else some (['&'].intercalate (p.query.map (·.filled v)))

/-- A filled pattern is its path, and its query behind a `?`. -/
theorem toList_fill (p : Pattern) (v : String → String) :
    (p.fill v).toList =
      ['/'].intercalate (p.segments.map (·.filled v)) ++ (p.filledQuery? v).elim [] ('?' :: ·) := by
  rw [fill, filledQuery?, String.toList_append, toList_joined, List.map_map]
  congr 1
  · congr 1
    refine List.map_congr_left fun s _ => ?_
    cases s <;> rfl
  · have hslot : ∀ s : QuerySlot, (s.key ++ "=" ++ v s.placeholder).toList = s.filled v := by
      intro s
      simp [QuerySlot.filled]
    cases hquery : p.query with
    | nil => rfl
    | cons slot slots => simp [toList_joined, Function.comp_def, hslot]

/-- A pattern is written by putting the names between braces in their own places. -/
theorem print_eq_fill (p : Pattern) : p.print = p.fill inBraces := by
  have hpath : p.segments.map Segment.print = p.segments.map fun s =>
      match s with | .placeholder name => inBraces name | .fixed text => text := by
    refine List.map_congr_left fun s _ => ?_
    cases s <;> rfl
  have hslot : ∀ s : QuerySlot, s.print = s.key ++ "=" ++ inBraces s.placeholder := by
    intro s
    rw [QuerySlot.print, inBraces]
    simp only [String.append_assoc]
  rw [print, hpath, funext hslot]
  rfl

/-- The entries of a text are read one by one, and none of them where there is no `?`. -/
theorem slots?_eq_mapM (text : String) :
    slots? (cut '?' text.toList).2 = (entriesOf text).mapM QuerySlot.ofChars? := by
  rw [entriesOf]
  cases (cut '?' text.toList).2 <;> rfl

theorem map_filled_of_mapM {entries : List (List Char)} {slots : List QuerySlot}
    (h : entries.mapM QuerySlot.ofChars? = some slots) :
    slots.map (·.filled inBraces) = entries := by
  induction entries generalizing slots with
  | nil =>
    obtain rfl := Option.some.inj h
    rfl
  | cons entry entries ih =>
    obtain ⟨slot, slots, hslot, hslots, rfl⟩ := mapM_cons_eq_some_iff.1 h
    rw [List.map_cons, ih hslots, QuerySlot.filled_inBraces_of_ofChars? hslot]

/-- The query of a text is written as it was read. -/
theorem filledQuery?_of_mapM {text : String} {slots : List QuerySlot}
    (h : (entriesOf text).mapM QuerySlot.ofChars? = some slots) :
    (ofParts text slots).filledQuery? inBraces = (cut '?' text.toList).2 := by
  have hentries := map_filled_of_mapM h
  rw [filledQuery?, ofParts, hentries, entriesOf]
  cases hcut : (cut '?' text.toList).2 with
  | none =>
    rw [entriesOf, hcut] at h
    obtain rfl := Option.some.inj h
    rfl
  | some query =>
    have hne : slots.isEmpty = false := by
      rw [List.isEmpty_eq_false_iff]
      rintro rfl
      rw [entriesOf, hcut] at hentries
      exact List.splitOn_ne_nil '&' query hentries.symm
    rw [hne, if_neg (by decide), Option.elim_some, List.intercalate_splitOn]

/-- **A pattern is written as the text that it was read from.** -/
theorem print_of_parse {text : String} {p : Pattern} (h : parse text = .ok p) : p.print = text := by
  obtain ⟨-, ⟨slots, hslots, rfl⟩, -⟩ := parse_eq_ok_iff.1 h
  rw [slots?_eq_mapM] at hslots
  have hsegments : (ofParts text slots).segments.map (·.filled inBraces) = partsOf text := by
    rw [ofParts, List.map_map]
    exact List.map_id'' Segment.filled_inBraces_ofChars _
  rw [print_eq_fill, ← String.toList_inj, toList_fill, filledQuery?_of_mapM hslots, hsegments,
    partsOf, List.intercalate_splitOn, append_cut]

/-- **Exactly the texts of the grammar are patterns**, and each is written as it was read. -/
theorem parse_succeeds_iff (text : String) :
    ((∃ p, parse text = .ok p) ↔ IsPatternText text) ∧
      ∀ p, parse text = .ok p → p.print = text := by
  refine ⟨⟨?_, ?_⟩, fun p => print_of_parse⟩
  · rintro ⟨p, hp⟩
    obtain ⟨hne, ⟨slots, hslots, rfl⟩, hnames, hstray⟩ := parse_eq_ok_iff.1 hp
    rw [nameFault?_eq_none_iff] at hnames
    rw [slots?_eq_mapM] at hslots
    have hfit : ∀ name ∈ (ofParts text slots).names, IsPlaceholderName name :=
      fun name hname => (hnames.1 name hname).1
    rw [names, List.forall_mem_append] at hfit
    exact ⟨hne, _, _, pathNames_of_read hfit.1 hstray, queryNames_of_read hslots hfit.2, hnames.2⟩
  · rintro ⟨hne, path, query, hpath, hquery, hnodup⟩
    obtain ⟨hpathNames, hstray, hpathFit⟩ := hpath.read
    obtain ⟨slots, hslots, hqueryNames, hqueryFit⟩ := hquery.read
    refine ⟨ofParts text slots, parse_eq_ok_iff.2 ⟨hne, ⟨slots, ?_, rfl⟩, ?_, hstray⟩⟩
    · rw [slots?_eq_mapM, hslots]
    · have hnames : (ofParts text slots).names = path ++ query := by
        rw [names, ← hpathNames, ← hqueryNames]
        rfl
      rw [nameFault?_eq_none_iff, hnames, List.forall_mem_append]
      exact ⟨⟨fun name hname => ⟨hpathFit name hname, List.not_mem_nil⟩,
        fun name hname => ⟨hqueryFit name hname, List.not_mem_nil⟩⟩, hnodup⟩

end Pattern

end ScreenRoutes
