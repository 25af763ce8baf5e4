import ScreenRoutes.Proofs.DecodingOutcome

/-!
# The order of captures

Captures are a map, and a map has no order of its own: whoever goes through its entries meets them
in some order. Decoding goes through the captures, and through what the declared arguments leave of
them. Neither order counts (`decoding_order_irrelevant`), except that of several captures that are
not UTF-8 the one that is met first is blamed.
-/

namespace ScreenRoutes

open Text

/-! ## Bundles -/

namespace Bundle

/-- Whether two bundles have the same arguments, in whatever order. -/
def Same (b b' : Bundle) : Prop :=
  b.size = b'.size ∧ ∀ name, b.get? name = b'.get? name

/-- The bundle with the captures added as strings, one after the other. -/
def addCaptures (b : Bundle) (captures : Captures) : Bundle :=
  captures.foldl (fun b c => b.insert c.1 (.string c.2)) b

theorem get?_insert (b : Bundle) (name other : String) (v : Value) :
    (b.insert name v).get? other = if other = name then some v else b.get? other := by
  unfold insert get?
  by_cases h : other = name
  · rw [if_pos h, h, Assoc.lookup_put_self]
  · rw [if_neg h, Assoc.lookup_put_of_ne h]

theorem names_insert_nodup {b : Bundle} (h : (b.entries.map (·.1)).Nodup) (name : String)
    (v : Value) : ((b.insert name v).entries.map (·.1)).Nodup := by
  by_cases hname : name ∈ b.entries.map (·.1)
  · rw [insert, Assoc.keys_put_of_mem hname]
    exact h
  · rw [insert_of_not_mem hname, List.map_append]
    exact h.append (List.nodup_singleton name) (List.disjoint_singleton.2 hname)

theorem names_addCaptures_nodup {b : Bundle} (h : (b.entries.map (·.1)).Nodup)
    (captures : Captures) : ((b.addCaptures captures).entries.map (·.1)).Nodup := by
  unfold addCaptures
  induction captures generalizing b with
  | nil => exact h
  | cons c captures ih => exact ih (names_insert_nodup h _ _)

theorem get?_addCaptures {captures : Captures} (hkeys : (captures.map (·.1)).Nodup) (b : Bundle)
    (name : String) :
    (b.addCaptures captures).get? name =
      ((captures.lookup name).map .string).or (b.get? name) := by
  unfold addCaptures
  induction captures generalizing b with
  | nil => rfl
  | cons c captures ih =>
    rw [List.map_cons, List.nodup_cons] at hkeys
    rw [List.foldl_cons, ih hkeys.2, get?_insert, List.lookup_cons]
    by_cases h : name = c.1
    · have hrest : captures.lookup name = none := lookup_eq_none_iff_not_mem.2 (h ▸ hkeys.1)
      rw [hrest]
      simp [h]
    · have hother : (name == c.1) = false := beq_eq_false_iff_ne.2 h
      simp [h, hother]

theorem mem_names_iff {b : Bundle} {name : String} :
    name ∈ b.entries.map (·.1) ↔ ∃ v, b.get? name = some v := by
  rw [← Option.ne_none_iff_exists', get?, ne_eq, lookup_eq_none_iff_not_mem, not_not]

/-- Bundles with the same arguments have as many of them. -/
theorem Same.of_get? {b b' : Bundle} (hnames : (b.entries.map (·.1)).Nodup)
    (hnames' : (b'.entries.map (·.1)).Nodup) (h : ∀ name, b.get? name = b'.get? name) :
    b.Same b' := by
  have hperm : (b.entries.map (·.1)).Perm (b'.entries.map (·.1)) := by
    rw [List.perm_ext_iff_of_nodup hnames hnames']
    intro name
    rw [mem_names_iff, mem_names_iff, h]
  refine ⟨?_, h⟩
  simpa [size] using hperm.length_eq

end Bundle

/-! ## Decoding in an order -/

/-- Reads the declared arguments in order, each taking its capture; what they leave of the captures
comes second. -/
def readDeclared (route : String) : List Argument → Captures → Bundle →
    Except NavigationError (Bundle × Captures)
  | [], captures, b => .ok (b, captures)
  | a :: rest, captures, b =>
    match a.valueOf route (captures.lookup a.name) with
    | .error e => .error e
    | .ok none => readDeclared route rest (Assoc.erase a.name captures) b
    | .ok (some v) => readDeclared route rest (Assoc.erase a.name captures) (b.insert a.name v)

/-- Reading is reading what is declared and adding the captures that are left. -/
theorem readArguments_eq (route : String) (arguments : List Argument) (captures : Captures)
    (b : Bundle) :
    readArguments route arguments captures b =
      (readDeclared route arguments captures b).map fun read => read.1.addCaptures read.2 := by
  induction arguments generalizing captures b with
  | nil => rfl
  | cons a arguments ih =>
    rw [readArguments, readDeclared]
    cases a.valueOf route (captures.lookup a.name) with
    | error e => rfl
    | ok v => cases v <;> simp only [ih]

/-- A way to go through the entries of a map: all of them, in some order. -/
structure Enumeration where
  enumerate : Captures → Captures
  perm : ∀ captures, (enumerate captures).Perm captures

/-- The order in which the captures are listed. -/
def Enumeration.asListed : Enumeration :=
  ⟨id, fun captures => .refl captures⟩

/-- Decoding where the captures are met in one order, and what the declared arguments leave of them
in another. -/
def decodeEnumerated (first last : Enumeration) (arguments : List Argument) (route : String)
    (captures : Captures) : Except NavigationError Bundle :=
  match decodeCaptures route (first.enumerate captures) with
  | .error e => .error e
  | .ok decoded =>
    (readDeclared route arguments decoded .empty).map fun read =>
      read.1.addCaptures (last.enumerate read.2)

theorem decodeArguments_eq_decodeEnumerated (arguments : List Argument) (route : String)
    (captures : Captures) :
    decodeArguments arguments route captures =
      decodeEnumerated .asListed .asListed arguments route captures := by
  unfold decodeArguments decodeEnumerated
  simp only [readArguments_eq]
  rfl

/-- Whether two outcomes are the same: the same arguments or the same error. -/
def SameOutcome : Except NavigationError Bundle → Except NavigationError Bundle → Prop
  | .ok b, .ok b' => b.Same b'
  | .error e, .error e' => e = e'
  | _, _ => False

/-! ## The declared arguments -/

theorem names_readDeclared_nodup {route : String} {arguments : List Argument}
    {captures left : Captures} {b b' : Bundle} (hb : (b.entries.map (·.1)).Nodup)
    (h : readDeclared route arguments captures b = .ok (b', left)) :
    (b'.entries.map (·.1)).Nodup := by
  induction arguments generalizing captures b with
  | nil =>
    obtain ⟨rfl, -⟩ := Prod.mk.inj (Except.ok.inj h)
    exact hb
  | cons a arguments ih =>
    rw [readDeclared] at h
    split at h
    · cases h
    · exact ih hb h
    · exact ih (Bundle.names_insert_nodup hb _ _) h

/-- In whatever order the captures stand, the declared arguments read the same of them and leave the
same. -/
theorem readDeclared_perm {route : String} {arguments : List Argument}
    {captures captures' : Captures} (hperm : captures.Perm captures')
    (hkeys : (captures.map (·.1)).Nodup) (b : Bundle) :
    (∃ e, readDeclared route arguments captures b = .error e ∧
        readDeclared route arguments captures' b = .error e) ∨
      ∃ b' left left', readDeclared route arguments captures b = .ok (b', left) ∧
        readDeclared route arguments captures' b = .ok (b', left') ∧
        left.Perm left' ∧ (left.map (·.1)).Nodup := by
  induction arguments generalizing captures captures' b with
  | nil => exact .inr ⟨b, captures, captures', rfl, rfl, hperm, hkeys⟩
  | cons a arguments ih =>
    have hperm' : (Assoc.erase a.name captures).Perm (Assoc.erase a.name captures') :=
      hperm.filter _
    have hkeys' : ((Assoc.erase a.name captures).map (·.1)).Nodup :=
      hkeys.sublist (List.filter_sublist.map _)
    rw [readDeclared, readDeclared, ← lookup_perm hperm hkeys]
    cases a.valueOf route (captures.lookup a.name) with
    | error e => exact .inl ⟨e, rfl, rfl⟩
    | ok v =>
      cases v with
      | none => exact ih hperm' hkeys' b
      | some v => exact ih hperm' hkeys' (b.insert a.name v)

/-! ## The captures -/

/-- Whether a capture is not UTF-8. -/
def isUndecodable (c : String × String) : Bool :=
  (decode? c.2).isNone

section Order

variable {arguments : List Argument} {route : String} {captures : Captures}

/-- Where every capture is UTF-8 the orders do not count. -/
theorem sameOutcome_of_decoded (hkeys : (captures.map (·.1)).Nodup)
    (hdecode : ∀ c ∈ captures, ∃ t, decode? c.2 = some t) (first last first' last' : Enumeration) :
    SameOutcome (decodeEnumerated first last arguments route captures)
      (decodeEnumerated first' last' arguments route captures) := by
  let text (c : String × String) : String × String := (c.1, (decode? c.2).getD "")
  have hfirst (e : Enumeration) :
      decodeCaptures route (e.enumerate captures) = .ok ((e.enumerate captures).map text) :=
    decodeCaptures_of_forall (fun c hc => hdecode c ((e.perm captures).mem_iff.1 hc)) route
  have hperm : ((first.enumerate captures).map text).Perm ((first'.enumerate captures).map text) :=
    ((first.perm captures).trans (first'.perm captures).symm).map text
  have hnames : (((first.enumerate captures).map text).map (·.1)).Nodup := by
    rw [List.map_map]
    exact ((first.perm captures).map (·.1)).nodup_iff.2 hkeys
  unfold decodeEnumerated
  simp only [hfirst]
  rcases readDeclared_perm hperm hnames .empty with ⟨e, he, he'⟩ | ⟨b, left, left', hb, hb', hleft⟩
  · rw [he, he']
    exact rfl
  · have hempty : (Bundle.empty.entries.map (·.1)).Nodup := List.nodup_nil
    have hread := names_readDeclared_nodup hempty hb
    obtain ⟨hleft, hleftNames⟩ := hleft
    have hlast := last.perm left
    have hlast' := (last'.perm left').trans hleft.symm
    rw [hb, hb']
    refine Bundle.Same.of_get? (Bundle.names_addCaptures_nodup hread _)
      (Bundle.names_addCaptures_nodup hread _) fun name => ?_
    have hkeysLast := (hlast.map (·.1)).nodup_iff.2 hleftNames
    have hkeysLast' := (hlast'.map (·.1)).nodup_iff.2 hleftNames
    rw [Bundle.get?_addCaptures hkeysLast, Bundle.get?_addCaptures hkeysLast',
      lookup_perm (hlast.trans hlast'.symm) hkeysLast]

/-- Where some capture is not UTF-8, such a one is blamed with its raw text. -/
theorem exists_blamed_of_undecoded (hfails : ∃ c ∈ captures, decode? c.2 = none)
    (first last : Enumeration) :
    ∃ c ∈ captures, decode? c.2 = none ∧ decodeEnumerated first last arguments route captures =
      .error (.invalidArgument route c.1 .string c.2) := by
  have hperm := first.perm captures
  cases hdecode : decodeCaptures route (first.enumerate captures) with
  | ok decoded =>
    obtain ⟨c, hc, hnone⟩ := hfails
    obtain ⟨t, ht⟩ := (exists_decodeCaptures_iff route).1 ⟨decoded, hdecode⟩ c (hperm.mem_iff.2 hc)
    rw [hnone] at ht
    cases ht
  | error e =>
    obtain ⟨before, c, after, hsplit, -, hnone, rfl⟩ := decodeCaptures_eq_error_iff.1 hdecode
    have hc : c ∈ first.enumerate captures := by simp [hsplit]
    refine ⟨c, hperm.mem_iff.1 hc, hnone, ?_⟩
    rw [decodeEnumerated, hdecode]

end Order

theorem eq_of_countP_le_one {α : Type} {p : α → Bool} {l : List α} (h : l.countP p ≤ 1) {a b : α}
    (ha : a ∈ l) (hb : b ∈ l) (hpa : p a) (hpb : p b) : a = b := by
  rw [List.countP_eq_length_filter] at h
  have ha' : a ∈ l.filter p := List.mem_filter.2 ⟨ha, hpa⟩
  have hb' : b ∈ l.filter p := List.mem_filter.2 ⟨hb, hpb⟩
  match hl : l.filter p with
  | [] => simp [hl] at ha'
  | [x] =>
    rw [hl, List.mem_singleton] at ha' hb'
    rw [ha', hb']
  | _ :: _ :: _ => simp [hl] at h

/-- **Decoding does not depend on the order in which captures are met**, as long as at most one of
them is not UTF-8: it comes to the same arguments or to the same error, whatever the orders, and so
to what it comes to in the order in which they are listed. Of several captures that are not UTF-8
one is blamed with its raw text, whichever that is. -/
theorem decoding_order_irrelevant {κ : Type} (d : Destination κ) (route : String)
    {captures : Captures} (hkeys : (captures.map (·.1)).Nodup) :
    (captures.countP isUndecodable ≤ 1 →
      ∀ first last first' last' : Enumeration,
        SameOutcome (decodeEnumerated first last d.arguments route captures)
          (decodeEnumerated first' last' d.arguments route captures)) ∧
    (2 ≤ captures.countP isUndecodable → ∀ first last : Enumeration,
      ∃ c ∈ captures, decode? c.2 = none ∧
        decodeEnumerated first last d.arguments route captures =
          .error (.invalidArgument route c.1 .string c.2)) ∧
    decodeArguments d.arguments route captures =
      decodeEnumerated .asListed .asListed d.arguments route captures := by
  refine ⟨fun hcount first last first' last' => ?_, fun hcount first last => ?_,
    decodeArguments_eq_decodeEnumerated _ _ _⟩
  · by_cases hfails : ∃ c ∈ captures, decode? c.2 = none
    · obtain ⟨c, hc, hnone, he⟩ := exists_blamed_of_undecoded hfails first last
      obtain ⟨c', hc', hnone', he'⟩ := exists_blamed_of_undecoded hfails first' last'
      have hsame : c = c' := eq_of_countP_le_one hcount hc hc' (by simp [isUndecodable, hnone])
        (by simp [isUndecodable, hnone'])
      rw [he, he', hsame]
      exact rfl
    · push Not at hfails
      exact sameOutcome_of_decoded hkeys
        (fun c hc => Option.ne_none_iff_exists'.1 (hfails c hc)) first last first' last'
  · have hpos : 0 < captures.countP isUndecodable := by omega
    obtain ⟨c, hc, hnone⟩ := List.countP_pos_iff.1 hpos
    exact exists_blamed_of_undecoded ⟨c, hc, by simpa [isUndecodable] using hnone⟩ first last

/-- Met the other way round, undeclared captures come to the same arguments, though their entries
stand the other way round too, and a capture that is not UTF-8 is blamed alike. Of two such captures
each way blames another. -/
theorem decoding_order_irrelevant_reversed :
    let d : Destination Unit := ⟨⟨"item/{id}?x={x}&y={y}",
      [.fixed "item", .placeholder "id"], [⟨"x", "x"⟩, ⟨"y", "y"⟩]⟩,
      [⟨"id", .int, false, none⟩], ()⟩
    let reversed : Enumeration := ⟨List.reverse, List.reverse_perm⟩
    let sound : Captures := [("id", "7"), ("x", "a"), ("y", "%62")]
    let faulty : Captures := [("id", "seven"), ("x", "%FF"), ("y", "b")]
    let twice : Captures := [("id", "7"), ("x", "%FF"), ("y", "%FE")]
    sound.countP isUndecodable = 0 ∧ faulty.countP isUndecodable = 1 ∧
      twice.countP isUndecodable = 2 ∧
      SameOutcome (decodeEnumerated .asListed .asListed d.arguments "r" sound)
        (decodeEnumerated reversed reversed d.arguments "r" sound) ∧
      decodeEnumerated .asListed .asListed d.arguments "r" sound ≠
        decodeEnumerated reversed .asListed d.arguments "r" sound ∧
      SameOutcome (decodeEnumerated .asListed .asListed d.arguments "r" faulty)
        (decodeEnumerated reversed reversed d.arguments "r" faulty) ∧
      (∃ c ∈ twice, decode? c.2 = none ∧
        decodeEnumerated reversed .asListed d.arguments "r" twice =
          .error (.invalidArgument "r" c.1 .string c.2)) ∧
      decodeEnumerated .asListed .asListed d.arguments "r" twice ≠
        decodeEnumerated reversed .asListed d.arguments "r" twice := by
  intro d reversed sound faulty twice
  have hsoundKeys : (sound.map (·.1)).Nodup := by decide
  have hfaultyKeys : (faulty.map (·.1)).Nodup := by decide
  have htwiceKeys : (twice.map (·.1)).Nodup := by decide
  obtain ⟨hsound, -, -⟩ := decoding_order_irrelevant d "r" hsoundKeys
  obtain ⟨hfaulty, -, -⟩ := decoding_order_irrelevant d "r" hfaultyKeys
  obtain ⟨-, htwice, -⟩ := decoding_order_irrelevant d "r" htwiceKeys
  have hnone : sound.countP isUndecodable = 0 := by decide +kernel
  have hone : faulty.countP isUndecodable = 1 := by decide +kernel
  have htwo : twice.countP isUndecodable = 2 := by decide +kernel
  exact ⟨hnone, hone, htwo, hsound (by omega) _ _ _ _, by decide +kernel,
    hfaulty (by omega) _ _ _ _, htwice (by omega) _ _, by decide +kernel⟩

end ScreenRoutes
