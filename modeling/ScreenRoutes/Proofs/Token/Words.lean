import ScreenRoutes.Token.Lexer

/-!
# Words of lexed code

Every identifier in the token trees of a text, at whatever depth, is a word: an identifier by its
characters, or `r#` and one behind it (`worded_of_lex?`). The lexemes of the text have words only,
and pairing up delimiters moves trees into groups without changing any.
-/

namespace ScreenRoutes

open Text

/-- Whether the characters are an identifier, raw or not. -/
def IsWord (cs : List Char) : Prop :=
  isIdentifier cs ∨ ∃ name, cs = 'r' :: '#' :: name ∧ isIdentifier name

inductive TokenTree.Worded : TokenTree → Prop
  | ident {text : String} : IsWord text.toList → Worded (.ident text)
  | punct (c : Char) (joint : Bool) : Worded (.punct c joint)
  | literal (text : String) : Worded (.literal text)
  | group {d : Delimiter} {inside : Tokens} : (∀ t ∈ inside, t.Worded) → Worded (.group d inside)

/-- Whether all identifiers of a lexeme are words; the ends of groups have none. -/
def Lexeme.Worded : Lexeme → Prop
  | .trees ts => ∀ t ∈ ts, t.Worded
  | .opening _ | .closing _ => True

/-! ## Lexemes -/

theorem isIdentifier_of_word? {cs name rest : List Char} (h : word? cs = some (name, rest)) :
    isIdentifier name := by
  cases cs with
  | nil => cases h
  | cons c cs =>
    rw [word?] at h
    split at h
    · next hstart =>
      obtain ⟨rfl, -⟩ := Prod.mk.inj (Option.some.inj h)
      rw [isIdentifier, hstart, Bool.true_and, List.all_takeWhile]
    · cases h

theorem isWord_of_anyWord? {cs name rest : List Char} (h : anyWord? cs = some (name, rest)) :
    IsWord name := by
  unfold anyWord? at h
  split at h
  · next behind =>
    obtain ⟨⟨word, after⟩, hword, h⟩ := Option.bind_eq_some_iff.1 h
    obtain ⟨-, h⟩ := Option.ite_none_left_eq_some.1 h
    obtain ⟨rfl, -⟩ := Prod.mk.inj (Option.some.inj h)
    exact .inr ⟨word, rfl, isIdentifier_of_word? hword⟩
  · exact .inl (isIdentifier_of_word? h)

theorem worded_of_identifier? {cs rest : List Char} {t : TokenTree}
    (h : identifier? cs = some (t, rest)) : t.Worded := by
  rw [identifier?] at h
  split at h
  · cases h
  · obtain ⟨⟨name, behind⟩, hname, h⟩ := Option.map_eq_some_iff.1 h
    obtain ⟨rfl, -⟩ := Prod.mk.inj h
    refine .ident ?_
    rw [String.toList_ofList]
    exact isWord_of_anyWord? hname

theorem worded_of_punct? {cs rest : List Char} {t : TokenTree} (h : punct? cs = some (t, rest)) :
    t.Worded := by
  unfold punct? at h
  split at h
  · cases h
  · next behind =>
    split at h
    · cases h
    · cases h
    · split at h
      · obtain ⟨rfl, -⟩ := Prod.mk.inj (Option.some.inj h)
        exact .punct _ _
      · cases h
    · obtain ⟨rfl, -⟩ := Prod.mk.inj (Option.some.inj h)
      exact .punct _ _
  · obtain ⟨rfl, -⟩ := Prod.mk.inj (Option.some.inj h)
    exact .punct _ _

theorem worded_of_literal? {cs rest : List Char} {t : TokenTree}
    (h : literal? cs = some (t, rest)) : t.Worded := by
  obtain ⟨behind, -, h⟩ := Option.map_eq_some_iff.1 h
  obtain ⟨rfl, -⟩ := Prod.mk.inj h
  exact .literal _

theorem worded_of_erroneous? {cs rest : List Char} {t : TokenTree}
    (h : erroneous? cs = some (t, rest)) : t.Worded := by
  obtain ⟨behind, -, h⟩ := Option.map_eq_some_iff.1 h
  obtain ⟨rfl, -⟩ := Prod.mk.inj h
  exact .literal _

theorem worded_docAttribute (text : String) (inner : Bool) :
    (Lexeme.trees (docAttribute text inner)).Worded := by
  have hdoc : (TokenTree.ident "doc").Worded := .ident (.inl (by decide +kernel))
  have hgroup : (TokenTree.group .bracket
      [.ident "doc", .punct '=' false, .string text]).Worded := by
    refine .group ?_
    simp only [List.forall_mem_cons]
    exact ⟨hdoc, .punct _ _, .literal _, List.forall_mem_nil _⟩
  cases inner with
  | false => simpa [Lexeme.Worded, docAttribute] using ⟨.punct _ _, hgroup⟩
  | true => simpa [Lexeme.Worded, docAttribute] using ⟨.punct _ _, .punct _ _, hgroup⟩

theorem worded_of_delimiter? {c : Char} {l : Lexeme} (h : delimiter? c = some l) : l.Worded := by
  unfold delimiter? at h
  split at h <;> cases h <;> trivial

theorem worded_trees_singleton {t : TokenTree} (h : t.Worded) : (Lexeme.trees [t]).Worded :=
  List.forall_mem_singleton.2 h

theorem worded_of_leaf {cs rest : List Char} {t : TokenTree}
    (h : (literal? cs <|> punct? cs <|> identifier? cs) = some (t, rest)) : t.Worded := by
  simp only [Option.orElse_eq_orElse, Option.orElse_eq_or, Option.or_eq_some_iff] at h
  obtain h | ⟨-, h | ⟨-, h⟩⟩ := h
  · exact worded_of_literal? h
  · exact worded_of_punct? h
  · exact worded_of_identifier? h

theorem worded_of_lexeme? {cs rest : List Char} {l : Lexeme} (h : lexeme? cs = some (l, rest)) :
    l.Worded := by
  dsimp only [lexeme?] at h
  generalize (docComment? cs).filter _ = doc at h
  rcases doc with - | ⟨text, inner, behind⟩
  · cases herroneous : erroneous? cs with
    | some result =>
      rw [herroneous] at h
      obtain ⟨rfl, -⟩ := Prod.mk.inj (Option.some.inj h)
      exact worded_trees_singleton (worded_of_erroneous? herroneous)
    | none =>
      rw [herroneous] at h
      cases hdelimiter : cs.head?.bind delimiter? with
      | some l' =>
        simp only [hdelimiter] at h
        obtain ⟨rfl, -⟩ := Prod.mk.inj (Option.some.inj h)
        obtain ⟨c, -, hc⟩ := Option.bind_eq_some_iff.1 hdelimiter
        exact worded_of_delimiter? hc
      | none =>
        simp only [hdelimiter] at h
        obtain ⟨⟨t, behind⟩, ht, h⟩ := Option.map_eq_some_iff.1 h
        obtain ⟨rfl, -⟩ := Prod.mk.inj h
        exact worded_trees_singleton (worded_of_leaf ht)
  · obtain ⟨rfl, -⟩ := Prod.mk.inj (Option.some.inj h)
    exact worded_docAttribute _ _

theorem worded_of_lexemes? {cs : List Char} {ls : List Lexeme} (h : lexemes? cs = some ls) :
    ∀ l ∈ ls, l.Worded := by
  fun_induction lexemes? cs generalizing ls with
  | case1 =>
    cases h
    exact List.forall_mem_nil _
  | case2 => cases h
  | case3 cs c text _ l rest hl _ ih =>
    obtain ⟨others, hothers, rfl⟩ := Option.map_eq_some_iff.1 h
    exact List.forall_mem_cons.2 ⟨worded_of_lexeme? hl, ih hothers⟩
  | case4 => cases h

/-! ## Groups -/

theorem worded_of_groupLexemes? {open_ : List (Delimiter × Tokens)} {current : Tokens}
    {ls : List Lexeme} {ts : Tokens} (h : groupLexemes? open_ current ls = some ts)
    (hopen : ∀ g ∈ open_, ∀ t ∈ g.2, t.Worded) (hcurrent : ∀ t ∈ current, t.Worded)
    (hls : ∀ l ∈ ls, l.Worded) : ∀ t ∈ ts, t.Worded := by
  -- all trees seen so far have words only, those of the innermost group and of the ones around it
  fun_induction groupLexemes? open_ current ls with
  | case1 open_ current hend =>
    cases h
    simpa only [List.mem_reverse] using hcurrent
  | case2 => cases h
  | case3 open_ current trees ls ih =>
    obtain ⟨htrees, hls⟩ := List.forall_mem_cons.1 hls
    refine ih h hopen (List.forall_mem_append.2 ⟨?_, hcurrent⟩) hls
    intro t ht
    exact htrees t (List.mem_reverse.1 ht)
  | case4 open_ current d ls ih =>
    exact ih h (List.forall_mem_cons.2 ⟨hcurrent, hopen⟩) (List.forall_mem_nil _)
      (List.forall_mem_cons.1 hls).2
  | case5 current d ls outer open_ ih =>
    obtain ⟨houter, hopen⟩ := List.forall_mem_cons.1 hopen
    refine ih h hopen (List.forall_mem_cons.2 ⟨.group ?_, houter⟩) (List.forall_mem_cons.1 hls).2
    simpa only [List.mem_reverse] using hcurrent
  | case6 => cases h
  | case7 => cases h

/-- **Every identifier of lexed code is a word.** -/
theorem worded_of_lex? {text : String} {ts : Tokens} (h : lex? text = some ts) :
    ∀ t ∈ ts, t.Worded := by
  obtain ⟨ls, hls, h⟩ := Option.bind_eq_some_iff.1 h
  exact worded_of_groupLexemes? h (List.forall_mem_nil _) (List.forall_mem_nil _)
    (worded_of_lexemes? hls)

end ScreenRoutes
