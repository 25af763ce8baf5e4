import ScreenRoutes.Expansion.Code

/-!
# Reading code back

The trees of a body come apart into statements, and those of an argument list into expressions. Both
are read off the trees alone: a statement ends with a semicolon, or with braces that no semicolon
follows, and expressions stand between commas. Trees that are none of these marks are `Plain`.
-/

namespace ScreenRoutes

open TokenTree (mark rootPath)

/-! ## Statements and expressions -/

def startsSemicolon : Tokens → Bool
  | .punct c _ :: _ => c == ';'
  | _ => false

/-- Whether a tree ends the statement that it stands in, with `rest` behind it. -/
def TokenTree.endsStatement (rest : Tokens) : TokenTree → Bool
  | .punct c _ => c == ';'
  | .group .brace _ => !startsSemicolon rest
  | _ => false

/-- The statements of a body, each with its semicolon if it has one. -/
def statements : Tokens → List Tokens
  | [] => []
  | t :: ts =>
    if t.endsStatement ts then [t] :: statements ts
    else
      match statements ts with
      | [] => [[t]]
      | statement :: others => (t :: statement) :: others

def TokenTree.isComma : TokenTree → Bool
  | .punct c _ => c == ','
  | _ => false

def expressions (ts : Tokens) : List Tokens :=
  if ts.isEmpty then [] else ts.splitOnP (·.isComma)

/-! ## Plain trees -/

/-- Whether a tree ends neither a statement nor an expression. -/
def TokenTree.isPlain : TokenTree → Bool
  | .punct c _ => c != ';' && c != ','
  | .group .brace _ => false
  | _ => true

/-- Whether no statement and no expression ends within the trees. -/
def Plain (ts : Tokens) : Prop :=
  ∀ t ∈ ts, t.isPlain

instance (ts : Tokens) : Decidable (Plain ts) :=
  inferInstanceAs (Decidable (∀ t ∈ ts, t.isPlain))

@[simp] theorem plain_nil : Plain [] :=
  List.forall_mem_nil _

@[simp] theorem plain_cons {t : TokenTree} {ts : Tokens} :
    Plain (t :: ts) ↔ t.isPlain ∧ Plain ts :=
  List.forall_mem_cons

@[simp] theorem plain_append {ts us : Tokens} : Plain (ts ++ us) ↔ Plain ts ∧ Plain us :=
  List.forall_mem_append

@[simp] theorem isPlain_ident (w : String) : (TokenTree.ident w).isPlain :=
  rfl

@[simp] theorem isPlain_literal (text : String) : (TokenTree.literal text).isPlain :=
  rfl

@[simp] theorem isPlain_paren (ts : Tokens) : (TokenTree.group .paren ts).isPlain :=
  rfl

theorem plain_mark {s : String} (hsemicolon : ';' ∉ s.toList) (hcomma : ',' ∉ s.toList) :
    Plain (mark s) := by
  have hpunct {c : Char} (joint : Bool) (hc : c ∈ s.toList) :
      (TokenTree.punct c joint).isPlain := by
    have h1 : c ≠ ';' := fun h => hsemicolon (h ▸ hc)
    have h2 : c ≠ ',' := fun h => hcomma (h ▸ hc)
    simp [TokenTree.isPlain, h1, h2]
  intro t ht
  rw [mark, List.mem_append, List.mem_map, List.mem_map] at ht
  rcases ht with ⟨⟨c, c'⟩, hc, rfl⟩ | ⟨c, hc, rfl⟩
  · exact hpunct true (List.of_mem_zip hc).1
  · exact hpunct false (List.mem_of_getLast? (Option.mem_toList.1 hc))

@[simp] theorem plain_rootPath (names : List String) : Plain (rootPath names) := by
  have hmark : Plain (mark "::") := plain_mark (by decide) (by decide)
  induction names with
  | nil => exact plain_nil
  | cons name names ih =>
    rw [rootPath, List.flatMap_cons, ← rootPath]
    simp [hmark, ih]

@[simp] theorem plain_parens (ts : Tokens) : Plain (parens ts) := by
  simp [parens]

@[simp] theorem plain_methodCall (name : String) (arguments : Tokens) :
    Plain (methodCall name arguments) := by
  have hmark : Plain (mark ".") := plain_mark (by decide) (by decide)
  simp [methodCall, hmark]

theorem isComma_of_isPlain {t : TokenTree} (h : t.isPlain) : t.isComma = false := by
  cases t with
  | punct c joint =>
    rw [TokenTree.isPlain, Bool.and_eq_true] at h
    simpa [TokenTree.isComma] using h.2
  | ident | literal | group => rfl

theorem endsStatement_of_isPlain {t : TokenTree} (h : t.isPlain) (rest : Tokens) :
    t.endsStatement rest = false := by
  cases t with
  | punct c joint =>
    rw [TokenTree.isPlain, Bool.and_eq_true] at h
    simpa [TokenTree.endsStatement] using h.1
  | ident | literal => rfl
  | group d inside =>
    cases d with
    | brace => cases h
    | paren | bracket => rfl

/-! ## Cutting bodies -/

/-- Plain trees belong to the statement behind them. -/
theorem statements_append {front : Tokens} (h : Plain front) {ts statement : Tokens}
    {others : List Tokens} (hts : statements ts = statement :: others) :
    statements (front ++ ts) = (front ++ statement) :: others := by
  induction front with
  | nil => exact hts
  | cons t front ih =>
    rw [plain_cons] at h
    rw [List.cons_append, statements, endsStatement_of_isPlain h.1, if_neg Bool.false_ne_true,
      ih h.2]
    rfl

theorem statements_of_plain {ts : Tokens} (h : Plain ts) (hne : ts ≠ []) :
    statements ts = [ts] := by
  obtain ⟨t, ts, rfl⟩ := List.exists_cons_of_ne_nil hne
  induction ts generalizing t with
  | nil => rw [statements, endsStatement_of_isPlain (plain_cons.1 h).1]; rfl
  | cons t' ts ih =>
    rw [plain_cons] at h
    have hfront : Plain [t] := plain_cons.2 ⟨h.1, plain_nil⟩
    exact statements_append hfront (ih t' h.2 (List.cons_ne_nil _ _))

/-- Whether trees are one statement wherever they stand. -/
structure IsStatement (ts : Tokens) : Prop where
  not_startsSemicolon : ∀ rest, startsSemicolon (ts ++ rest) = false
  cut : ∀ rest, startsSemicolon rest = false → statements (ts ++ rest) = ts :: statements rest

theorem startsSemicolon_of_plain {ts : Tokens} (h : Plain ts) (hne : ts ≠ []) (rest : Tokens) :
    startsSemicolon (ts ++ rest) = false := by
  obtain ⟨t, ts, rfl⟩ := List.exists_cons_of_ne_nil hne
  have ht := (plain_cons.1 h).1
  cases t with
  | punct c joint =>
    rw [TokenTree.isPlain, Bool.and_eq_true] at ht
    simpa [startsSemicolon] using ht.1
  | ident | literal | group => rfl

theorem statements_semicolon (rest : Tokens) :
    statements (mark ";" ++ rest) = mark ";" :: statements rest :=
  rfl

theorem isStatement_semicolon {front : Tokens} (h : Plain front) (hne : front ≠ []) :
    IsStatement (front ++ mark ";") where
  not_startsSemicolon rest := by
    rw [List.append_assoc]
    exact startsSemicolon_of_plain h hne _
  cut rest _ := by
    rw [List.append_assoc]
    exact statements_append h (statements_semicolon rest)

/-- Braces that no semicolon follows end a statement. -/
theorem isStatement_braces {front : Tokens} (h : Plain front) (hne : front ≠ []) (inside : Tokens) :
    IsStatement (front ++ braces inside) where
  not_startsSemicolon rest := by
    rw [List.append_assoc]
    exact startsSemicolon_of_plain h hne _
  cut rest hrest := by
    have hbraces : statements (braces inside ++ rest) = braces inside :: statements rest := by
      show statements (.group .brace inside :: rest) = _
      rw [statements, TokenTree.endsStatement, hrest]
      rfl
    rw [List.append_assoc]
    exact statements_append h hbraces

/-- Braces with a semicolon behind them are part of the statement that it ends. -/
theorem isStatement_braces_semicolon {front : Tokens} (h : Plain front) (hne : front ≠ [])
    (inside : Tokens) : IsStatement (front ++ braces inside ++ mark ";") where
  not_startsSemicolon rest := by
    rw [List.append_assoc, List.append_assoc]
    exact startsSemicolon_of_plain h hne _
  cut rest _ := by
    have hbraces : statements (braces inside ++ mark ";" ++ rest) =
        (braces inside ++ mark ";") :: statements rest := by
      show statements (.group .brace inside :: (mark ";" ++ rest)) = _
      rw [statements, statements_semicolon]
      rfl
    rw [List.append_assoc front, List.append_assoc front]
    exact statements_append h hbraces

/-- **Statements one after the other are read back one by one.** -/
theorem statements_flatten {sts : List Tokens} (h : ∀ st ∈ sts, IsStatement st) {rest : Tokens}
    (hrest : startsSemicolon rest = false) :
    statements (sts.flatten ++ rest) = sts ++ statements rest := by
  induction sts with
  | nil => rfl
  | cons st sts ih =>
    rw [List.forall_mem_cons] at h
    have hbehind : startsSemicolon (sts.flatten ++ rest) = false := by
      cases sts with
      | nil => exact hrest
      | cons st' sts =>
        rw [List.flatten_cons, List.append_assoc]
        exact (h.2 st' List.mem_cons_self).not_startsSemicolon _
    rw [List.flatten_cons, List.append_assoc, h.1.cut _ hbehind, ih h.2, List.cons_append]

/-! ## Cutting argument lists -/

theorem separated_cons_cons (e e' : Tokens) (es : List Tokens) :
    separated (e :: e' :: es) = e ++ .punct ',' false :: separated (e' :: es) :=
  rfl

theorem splitOnP_separated {e : Tokens} {es : List Tokens} (h : ∀ x ∈ e :: es, Plain x) :
    (separated (e :: es)).splitOnP (·.isComma) = e :: es := by
  have he : ∀ t ∈ e, t.isComma = false := fun t ht =>
    isComma_of_isPlain (h e List.mem_cons_self t ht)
  induction es generalizing e with
  | nil =>
    rw [separated, List.intersperse_singleton, List.flatten_singleton,
      List.splitOnP_eq_singleton he]
  | cons e' es ih =>
    rw [List.forall_mem_cons] at h
    rw [separated_cons_cons, List.splitOnP_append_cons_of_forall_mem he _ rfl,
      ih h.2 fun t ht => isComma_of_isPlain (h.2 e' List.mem_cons_self t ht)]

/-- **Expressions with commas between them are read back one by one.** -/
theorem expressions_separated {es : List Tokens} (h : ∀ e ∈ es, Plain e ∧ e ≠ []) :
    expressions (separated es) = es := by
  cases es with
  | nil => rfl
  | cons e es =>
    have hne : separated (e :: es) ≠ [] := by
      have he : e ≠ [] := (h e List.mem_cons_self).2
      cases es with
      | nil => simpa [separated] using he
      | cons e' es => simp [separated_cons_cons]
    rw [expressions, if_neg (by simpa using hne)]
    exact splitOnP_separated fun x hx => (h x hx).1

end ScreenRoutes
