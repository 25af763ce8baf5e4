import ScreenRoutes.Proofs.Text.Cut
import ScreenRoutes.SourceFile.Spelling

/-!
# Reading string literals

A string literal denotes characters and interpolated names. `readLiteral?` takes it apart by the
lexical rules of Kotlin. In a quoted literal a backslash escapes the character behind it, and in a
raw one, between three quotes on either side, nothing is escaped. In both a `$` interpolates: a
name, which goes on as long as it can, or what stands between braces.

Text that is spelled for either kind of literal is read back as its own characters
(`reads_literalChars`, `reads_templateChars`), and a spelled name as the name
(`readName?_spellName`).
-/

namespace ScreenRoutes

open Text

/-! ## Rules of the language -/

/-- What a string literal denotes at a place: a character, or the value of a name; that of a
nullable one is left out where it is absent. -/
inductive Symbol where
  | char (c : Char)
  | value (name : String) (nullable : Bool)
  deriving DecidableEq, Repr

/-- The name at the front, and the rest behind it. It stands between back-quotes, or it is plain and
no keyword, and as long as possible. -/
def readName? : List Char → Option (String × List Char)
  | [] => none
  | c :: cs =>
    if c = '\x60' then
      match cut '\x60' cs with
      | (name, some rest) => if name = [] then none else some (String.ofList name, rest)
      | (_, none) => none
    else
      let name := String.ofList (c :: cs.takeWhile isPlainRest)
      if isPlainName name ∧ ¬ hardKeywords.contains name then
        some (name, cs.dropWhile isPlainRest)
      else none

/-- What stands behind a name that may be null, up to the brace that closes. -/
def orEmpty : List Char :=
  [' ', '?', ':', ' ', '"', '"', '\x7d']

/-- What an opened brace interpolates: a character constant, a name, or a name that may be null. -/
def readBraced? (cs : List Char) : Option (Symbol × List Char) :=
  match cs with
  | '\'' :: c :: '\'' :: '\x7d' :: rest =>
    if c = '\\' ∨ c = '\'' then none else some (.char c, rest)
  | _ =>
    match readName? cs with
    | some (name, '\x7d' :: rest) => some (.value name false, rest)
    | some (name, behind) => (after? orEmpty behind).map fun rest => (.value name true, rest)
    | none => none

/-- What is interpolated behind a `$`, which does not stand for itself. -/
def readInterpolation? (cs : List Char) : Option (Symbol × List Char) :=
  match cs with
  | '\x7b' :: cs => readBraced? cs
  | _ => (readName? cs).map fun (name, rest) => (.value name false, rest)

def escaped? : Char → Option Char
  | 't' => some '\t'
  | 'b' => some '\x08'
  | 'n' => some '\n'
  | 'r' => some '\r'
  | '\'' => some '\''
  | '"' => some '"'
  | '\\' => some '\\'
  | '$' => some '$'
  | _ => none

def readEscape? : List Char → Option (Symbol × List Char)
  | [] => none
  | c :: rest => (escaped? c).map fun d => (.char d, rest)

/-- What comes next in a string literal: its end, or a symbol. -/
inductive LiteralStep where
  | closed (rest : List Char)
  | symbol (x : Symbol) (rest : List Char)
  deriving DecidableEq, Repr

/-- What comes next in a quoted literal, which ends with its line at the latest. -/
def quotedStep? : List Char → Option LiteralStep
  | [] => none
  | c :: cs =>
    if c = '"' then some (.closed cs)
    else if c = '\\' then (readEscape? cs).map fun (x, rest) => .symbol x rest
    else if c = '$' then (readInterpolation? cs).map fun (x, rest) => .symbol x rest
    else if c = '\n' ∨ c = '\r' then none
    else some (.symbol (.char c) cs)

/-- What comes next in a raw literal. Of more than three quotes the last three end it. -/
def rawStep? : List Char → Option LiteralStep
  | [] => none
  | c :: cs =>
    if c = '"' then
      match after? ['"', '"'] cs with
      | some rest =>
        if rest.head? = some '"' then some (.symbol (.char '"') cs) else some (.closed rest)
      | none => some (.symbol (.char '"') cs)
    else if c = '$' then (readInterpolation? cs).map fun (x, rest) => .symbol x rest
    else some (.symbol (.char c) cs)

/-- The symbols up to the end of a literal, and the rest behind it. Each takes some of the text. -/
def readSymbols (step? : List Char → Option LiteralStep) (cs : List Char) :
    Option (List Symbol × List Char) :=
  match step? cs with
  | none => none
  | some (.closed rest) => some ([], rest)
  | some (.symbol x rest) =>
    if _h : rest.length < cs.length then
      (readSymbols step? rest).map fun (xs, behind) => (x :: xs, behind)
    else none
termination_by cs.length

/-- What the string literal at the front denotes, and the rest behind it. -/
def readLiteral? : List Char → Option (List Symbol × List Char)
  | '"' :: '"' :: '"' :: cs => readSymbols rawStep? cs
  | '"' :: cs => readSymbols quotedStep? cs
  | _ => none

/-! ## Names -/

/-- Whether a name can be spelled: there is one, and no back-quote in it. -/
structure IsSpellable (name : String) : Prop where
  ne_empty : name ≠ ""
  free : '\x60' ∉ name.toList

instance (name : String) : Decidable (IsSpellable name) :=
  decidable_of_iff (name ≠ "" ∧ '\x60' ∉ name.toList)
    ⟨fun ⟨hne, hfree⟩ => ⟨hne, hfree⟩, fun h => ⟨h.ne_empty, h.free⟩⟩

/-- Whether a plain name ends where the text starts. -/
def EndsName (cs : List Char) : Prop :=
  ∀ c ∈ cs.head?, isPlainRest c = false

theorem endsName_cons {c : Char} {cs : List Char} :
    EndsName (c :: cs) ↔ isPlainRest c = false := by
  simp [EndsName]

theorem EndsName.takeWhile_eq {cs : List Char} (h : EndsName cs) :
    cs.takeWhile isPlainRest = [] := by
  cases cs with
  | nil => rfl
  | cons c cs => simp [endsName_cons.1 h]

theorem EndsName.dropWhile_eq {cs : List Char} (h : EndsName cs) :
    cs.dropWhile isPlainRest = cs := by
  cases cs with
  | nil => rfl
  | cons c cs => simp [endsName_cons.1 h]

theorem exists_of_isPlainName {name : String} (h : isPlainName name) :
    ∃ c cs, name.toList = c :: cs ∧ (isAlphabetic c || c == '_') ∧ cs.all isPlainRest := by
  rw [isPlainName] at h
  split at h
  · cases h
  · next c cs hname =>
    rw [Bool.and_eq_true] at h
    exact ⟨c, cs, hname, h.1, h.2⟩

theorem readName?_plain {name : String} (hplain : isPlainName name)
    (hkeyword : ¬ hardKeywords.contains name) {rest : List Char} (hrest : EndsName rest) :
    readName? (name.toList ++ rest) = some (name, rest) := by
  obtain ⟨c, cs, hname, hc, hcs⟩ := exists_of_isPlainName hplain
  have hquote : c ≠ '\x60' := by
    rintro rfl
    exact absurd hc (by decide +kernel)
  rw [List.all_eq_true] at hcs
  have hread : String.ofList (c :: (cs ++ rest).takeWhile isPlainRest) = name := by
    rw [List.takeWhile_append_of_pos hcs, hrest.takeWhile_eq, List.append_nil, ← hname,
      String.ofList_toList]
  rw [hname, List.cons_append, readName?, if_neg hquote]
  simp only [hread, if_pos (And.intro hplain hkeyword), List.dropWhile_append_of_pos hcs,
    hrest.dropWhile_eq]

/-- **A name is read back from its spelling**, where nothing that could be part of it follows. -/
theorem readName?_spellName {name : String} (h : IsSpellable name) {rest : List Char}
    (hrest : EndsName rest) :
    readName? ((spellName name).toList ++ rest) = some (name, rest) := by
  rw [spellName]
  split
  · next hbare =>
    simp only [Bool.and_eq_true, Bool.not_eq_true'] at hbare
    have hkeyword : ¬ hardKeywords.contains name := by
      rw [hbare.1.2]
      exact Bool.false_ne_true
    exact readName?_plain hbare.1.1 hkeyword hrest
  · have hspelled : (backquoted name).toList ++ rest =
        '\x60' :: (name.toList ++ '\x60' :: rest) := by
      simp [backquoted]
    have hname : name.toList ≠ [] := by simpa using h.ne_empty
    rw [hspelled, readName?, if_pos rfl, cut_append_cons h.free]
    simp only [if_neg hname, String.ofList_toList]

/-! ## Interpolations -/

section

variable {cs rest : List Char} {name : String}

/-- A name starts with neither a brace nor an apostrophe. -/
theorem readName?_cons_of_not_isPlainName {c : Char} (hquote : c ≠ '\x60')
    (hletter : (isAlphabetic c || c == '_') = false) : readName? (c :: cs) = none := by
  have hplain : ¬ isPlainName (String.ofList (c :: cs.takeWhile isPlainRest)) := by
    simp [isPlainName, hletter]
  rw [readName?, if_neg hquote]
  exact if_neg fun h => hplain h.1

theorem readInterpolation?_name (h : readName? cs = some (name, rest)) :
    readInterpolation? cs = some (.value name false, rest) := by
  rw [readInterpolation?.eq_def]
  split
  · rw [readName?_cons_of_not_isPlainName (by decide) (by decide +kernel)] at h
    cases h
  · rw [h, Option.map_some]

theorem readBraced?_name (h : readName? cs = some (name, '\x7d' :: rest)) :
    readBraced? cs = some (.value name false, rest) := by
  rw [readBraced?.eq_def]
  split
  · rw [readName?_cons_of_not_isPlainName (by decide) (by decide +kernel)] at h
    cases h
  · rw [h]
    rfl

theorem readBraced?_nullable
    (h : readName? cs = some (name, orEmpty ++ rest)) :
    readBraced? cs = some (.value name true, rest) := by
  rw [readBraced?.eq_def]
  split
  · rw [readName?_cons_of_not_isPlainName (by decide) (by decide +kernel)] at h
    cases h
  · rw [h]
    rfl

end

/-! ## Runs -/

section

variable {step? : List Char → Option LiteralStep} {printed front : List Char}
  {xs ys : List Symbol} {rest : List Char}

/-- Whether a literal's text in front of `rest` reads as the symbols. -/
def Reads (step? : List Char → Option LiteralStep) (printed : List Char) (xs : List Symbol)
    (rest : List Char) : Prop :=
  readSymbols step? (printed ++ rest) =
    (readSymbols step? rest).map fun (ys, behind) => (xs ++ ys, behind)

theorem reads_nil : Reads step? [] [] rest := by
  simp [Reads]

theorem Reads.append (h : Reads step? printed ys rest)
    (hfront : Reads step? front xs (printed ++ rest)) :
    Reads step? (front ++ printed) (xs ++ ys) rest := by
  rw [Reads] at h hfront ⊢
  rw [List.append_assoc, hfront, h, Option.map_map]
  simp only [Function.comp_def, List.append_assoc]

/-- One step reads one symbol. -/
theorem reads_symbol {x : Symbol} (h : step? (printed ++ rest) = some (.symbol x rest))
    (hne : printed ≠ []) : Reads step? printed [x] rest := by
  have hlength : rest.length < (printed ++ rest).length := by
    rw [List.length_append]
    have hpos := List.length_pos_iff.2 hne
    omega
  rw [Reads, readSymbols, h]
  simp only [dif_pos hlength, List.cons_append, List.nil_append]

/-- Text reads as its characters where each of them does, whatever follows. -/
theorem reads_flatMap {print : Char → List Char}
    (h : ∀ c rest, Reads step? (print c) [.char c] rest) (cs rest : List Char) :
    Reads step? (cs.flatMap print) (cs.map .char) rest := by
  induction cs with
  | nil => exact reads_nil
  | cons c cs ih => exact ih.append (h c _)

end

/-- A `$` in a raw literal reads as what is interpolated behind it. -/
theorem reads_interpolation {x : Symbol} {printed rest : List Char}
    (h : readInterpolation? (printed ++ rest) = some (x, rest)) :
    Reads rawStep? ('$' :: printed) [x] rest := by
  refine reads_symbol ?_ (List.cons_ne_nil _ _)
  rw [List.cons_append, rawStep?, if_neg (by decide), if_pos rfl, h, Option.map_some]

/-! ## Text -/

theorem reads_literalChar (c : Char) (rest : List Char) :
    Reads quotedStep? (literalChar c) [.char c] rest := by
  rw [literalChar.eq_def]
  split
  case h_8 hquote hbackslash hfeed hreturn _ _ hdollar =>
    refine reads_symbol ?_ (List.cons_ne_nil _ _)
    rw [List.singleton_append, quotedStep?, if_neg hquote, if_neg hbackslash, if_neg hdollar,
      if_neg (not_or.2 ⟨hfeed, hreturn⟩)]
  all_goals exact reads_symbol rfl (List.cons_ne_nil _ _)

/-- **Text in a quoted literal is read back**, whatever follows it. -/
theorem reads_literalChars (cs rest : List Char) :
    Reads quotedStep? (cs.flatMap literalChar) (cs.map .char) rest :=
  reads_flatMap reads_literalChar cs rest

theorem reads_templateChar (c : Char) (rest : List Char) :
    Reads rawStep? (templateChar c) [.char c] rest := by
  rw [templateChar.eq_def]
  split
  case h_3 hdollar hquote =>
    refine reads_symbol ?_ (List.cons_ne_nil _ _)
    rw [List.singleton_append, rawStep?, if_neg hquote, if_neg hdollar]
  all_goals exact reads_symbol rfl (List.cons_ne_nil _ _)

/-- **Text in a raw literal is read back**, whatever follows it. -/
theorem reads_templateChars (cs rest : List Char) :
    Reads rawStep? (cs.flatMap templateChar) (cs.map .char) rest :=
  reads_flatMap reads_templateChar cs rest

/-! ## Literals -/

theorem readSymbols_quoted_closed (rest : List Char) :
    readSymbols quotedStep? ('"' :: rest) = some ([], rest) := by
  rw [readSymbols, quotedStep?, if_pos rfl]

theorem readSymbols_raw_closed {rest : List Char} (hrest : rest.head? ≠ some '"') :
    readSymbols rawStep? ('"' :: '"' :: '"' :: rest) = some ([], rest) := by
  have hquotes : after? ['"', '"'] ('"' :: '"' :: rest) = some rest := rfl
  rw [readSymbols, rawStep?, if_pos rfl, hquotes]
  simp only [if_neg hrest]

/-- **A text is read back from its quoted literal**, which ends at its own quote. -/
theorem readSymbols_literalChars (text : String) (rest : List Char) :
    readSymbols quotedStep? (text.toList.flatMap literalChar ++ '"' :: rest) =
      some (text.toList.map .char, rest) := by
  have h := reads_literalChars text.toList ('"' :: rest)
  rw [Reads, readSymbols_quoted_closed] at h
  simp only [h, Option.map_some, List.append_nil]

theorem literalChar_append_ne (c : Char) (cs rest : List Char) :
    literalChar c ++ cs ≠ '"' :: rest := by
  rw [literalChar.eq_def]
  split
  case h_8 hquote _ _ _ _ _ _ =>
    intro h
    exact hquote (List.cons.inj h).1
  all_goals nofun

/-- No other quote stands behind the one that opens a quoted literal, unless the text is empty. -/
theorem readLiteral?_stringLiteral (text : String) {rest : List Char}
    (hrest : rest.head? ≠ some '"') :
    readLiteral? ((stringLiteral text).toList ++ rest) = some (text.toList.map .char, rest) := by
  have hopen : readLiteral? ('"' :: (text.toList.flatMap literalChar ++ '"' :: rest)) =
      readSymbols quotedStep? (text.toList.flatMap literalChar ++ '"' :: rest) := by
    rw [readLiteral?]
    intro cs hcs
    cases htext : text.toList with
    | nil =>
      rw [htext] at hcs
      exact hrest (by rw [(List.cons.inj hcs).2, List.head?_cons])
    | cons c text =>
      rw [htext, List.flatMap_cons, List.append_assoc] at hcs
      exact literalChar_append_ne _ _ _ hcs
  have hliteral : (stringLiteral text).toList ++ rest =
      '"' :: (text.toList.flatMap literalChar ++ '"' :: rest) := by
    simp [stringLiteral]
  rw [hliteral, hopen, readSymbols_literalChars]

/-- A raw literal ends where its text does, if no quote follows. -/
theorem readLiteral?_raw {printed : List Char} {xs : List Symbol} {rest : List Char}
    (h : Reads rawStep? printed xs ('"' :: '"' :: '"' :: rest)) (hrest : rest.head? ≠ some '"') :
    readLiteral? ('"' :: '"' :: '"' :: (printed ++ '"' :: '"' :: '"' :: rest)) =
      some (xs, rest) := by
  rw [Reads, readSymbols_raw_closed hrest] at h
  simp only [readLiteral?, h, Option.map_some, List.append_nil]

end ScreenRoutes
