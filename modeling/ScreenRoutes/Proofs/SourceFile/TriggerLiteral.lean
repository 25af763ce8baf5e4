import ScreenRoutes.Proofs.SourceFile.StringLiteral
import ScreenRoutes.Proofs.TriggerPath
import ScreenRoutes.SourceFile.Members

/-!
# The literal that a trigger navigates to

The trigger of a source file navigates to a string literal, quoted where there are no parameters and
raw otherwise. Read back by the rules of the language it denotes the path of the trigger, and ends
where it was closed (`trigger_literal_denotes`). A plain name is interpolated without braces, so
this rests on what stands behind an argument on the walk: a mark that no name can go on with
(`Guarded`).
-/

namespace ScreenRoutes

open Text

def printedFragments (fragments : List Fragment) : List Char :=
  fragments.flatMap fun f => f.text.toList

@[simp] theorem printedFragments_nil : printedFragments [] = [] :=
  rfl

@[simp] theorem printedFragments_cons (f : Fragment) (fs : List Fragment) :
    printedFragments (f :: fs) = f.text.toList ++ printedFragments fs :=
  List.flatMap_cons

@[simp] theorem printedFragments_append (fs gs : List Fragment) :
    printedFragments (fs ++ gs) = printedFragments fs ++ printedFragments gs :=
  List.flatMap_append

/-! ## Pieces -/

namespace PathPiece

/-- What the piece denotes: the characters of a text, or the value of a name. -/
def symbols : PathPiece → List Symbol
  | .text s => s.toList.map .char
  | .value name _ nullable => [.value name nullable]

/-- The piece inside a raw literal. -/
def printed (piece : PathPiece) : List Char :=
  printedFragments piece.fragments

@[simp] theorem printed_text (t : String) :
    (PathPiece.text t).printed = t.toList.flatMap templateChar := by
  simp [printed, fragments, Fragment.text, templateText]

/-- A value is read back, where its name ends with it. -/
theorem reads_value {name : String} (h : IsSpellable name) (type : ArgType) (nullable : Bool)
    {rest : List Char} (hrest : EndsName rest) :
    Reads rawStep? (PathPiece.value name type nullable).printed [.value name nullable] rest := by
  cases nullable with
  | true =>
    have hprinted : (PathPiece.value name type true).printed = '$' :: '\x7b' ::
        ((spellName name).toList ++ orEmpty) := by
      simp [printed, fragments, Fragment.text, orEmpty]
    have hblank : EndsName (orEmpty ++ rest) :=
      endsName_cons.2 (by decide +kernel)
    rw [hprinted]
    refine reads_interpolation ?_
    rw [List.cons_append, List.append_assoc]
    exact readBraced?_nullable (readName?_spellName h hblank)
  | false =>
    by_cases hbraces : needsBraces name
    · have hprinted : (PathPiece.value name type false).printed =
          '$' :: '\x7b' :: ((spellName name).toList ++ ['\x7d']) := by
        simp [printed, fragments, hbraces, Fragment.text]
      have hbrace : EndsName ('\x7d' :: rest) := endsName_cons.2 (by decide +kernel)
      rw [hprinted]
      refine reads_interpolation ?_
      rw [List.cons_append, List.append_assoc]
      exact readBraced?_name (readName?_spellName h hbrace)
    · have hprinted : (PathPiece.value name type false).printed = '$' :: name.toList := by
        simp [printed, fragments, hbraces, Fragment.text]
      rw [needsBraces, Bool.or_eq_true, not_or, Bool.not_eq_true', Bool.not_eq_false] at hbraces
      rw [hprinted]
      exact reads_interpolation
        (readInterpolation?_name (readName?_plain hbraces.1 hbraces.2 hrest))

end PathPiece

/-! ## The walk -/

/-- Whether the step is text at which a plain name ends. -/
def RouteStep.endsName : RouteStep → Bool
  | .text t => t.toList.head?.any (!isPlainRest ·)
  | .path _ | .query _ => false

/-- Whether a plain name ends where the steps start, if there are any, and behind each argument. -/
structure Guarded (steps : List RouteStep) : Prop where
  endsName_head : ∀ step ∈ steps.head?, step.endsName
  isChain : steps.IsChain fun a b => a.isText ∨ b.endsName

theorem Guarded.text_argument {steps : List RouteStep} (h : Guarded steps) (t : String)
    (step : RouteStep) : (.text t :: step :: steps).IsChain fun a b => a.isText ∨ b.endsName :=
  (h.isChain.cons fun _ hnext => .inr (h.endsName_head _ hnext)).cons fun _ _ => .inl rfl

theorem guarded_queryWalk (ps : List Parameter) {lead : String}
    (hlead : (RouteStep.text lead).endsName) : Guarded (queryWalk lead ps) := by
  induction ps generalizing lead with
  | nil => exact ⟨nofun, .nil⟩
  | cons p ps ih =>
    have hand : (RouteStep.text "&").endsName := by decide +kernel
    have hentry := (ih hand).text_argument "=" (.query p)
    refine ⟨fun step hstep => ?_, (hentry.cons fun _ _ => .inl rfl).cons fun _ _ => .inl rfl⟩
    obtain rfl := Option.some.inj hstep
    exact hlead

theorem Guarded.pathWalk {steps : List RouteStep} (h : Guarded steps) (ps : List Parameter) :
    Guarded ((ps.flatMap fun p => [.text "/", .path p]) ++ steps) := by
  induction ps with
  | nil => exact h
  | cons p ps ih =>
    refine ⟨fun step hstep => ?_, ih.text_argument "/" (.path p)⟩
    obtain rfl := Option.some.inj hstep
    decide +kernel

/-- Behind each argument of the walk stands a mark that no name can go on with. -/
theorem Screen.isChain_walk (s : Screen) :
    s.walk.IsChain fun a b => a.isText ∨ b.endsName :=
  ((guarded_queryWalk s.optional (by decide +kernel)).pathWalk s.required).isChain.cons
    fun _ _ => .inl rfl

/-! ## The path -/

theorem flatMap_addText {α : Type} {f : PathPiece → List α}
    (hf : ∀ t u, f (.text (t ++ u)) = f (.text t) ++ f (.text u)) (t : String)
    (pieces : List PathPiece) : (addText t pieces).flatMap f = f (.text t) ++ pieces.flatMap f := by
  cases pieces with
  | nil => simp [addText]
  | cons piece pieces => cases piece <;> simp [addText, hf]

theorem endsName_templateChar {c : Char} (hc : isPlainRest c = false) (rest : List Char) :
    EndsName (templateChar c ++ rest) := by
  have hdollar : isPlainRest '$' = false := by decide +kernel
  rw [templateChar.eq_def]
  split
  · exact endsName_cons.2 hdollar
  · exact endsName_cons.2 hdollar
  · exact endsName_cons.2 hc

theorem endsName_printed {steps : List RouteStep} (h : ∀ step ∈ steps.head?, step.endsName)
    {rest : List Char} (hrest : EndsName rest) :
    EndsName ((pathPieces steps).flatMap PathPiece.printed ++ rest) := by
  cases steps with
  | nil => exact hrest
  | cons step steps =>
    have hstep := h step rfl
    cases step with
    | path p | query p => cases hstep
    | text t =>
      cases ht : t.toList with
      | nil => simp [RouteStep.endsName, ht] at hstep
      | cons c cs =>
        have hc : isPlainRest c = false := by simpa [RouteStep.endsName, ht] using hstep
        rw [pathPieces, flatMap_addText (by simp), PathPiece.printed_text, ht, List.flatMap_cons,
          List.append_assoc, List.append_assoc]
        exact endsName_templateChar hc _

/-- Steps of a walk are read back from the path that is made from them. -/
theorem reads_pathPieces {steps : List RouteStep}
    (hnames : ∀ p, .path p ∈ steps ∨ .query p ∈ steps → IsSpellable p.name)
    (hsteps : steps.IsChain fun a b => a.isText ∨ b.endsName) {rest : List Char}
    (hrest : EndsName rest) :
    Reads rawStep? ((pathPieces steps).flatMap PathPiece.printed)
      ((pathPieces steps).flatMap PathPiece.symbols) rest := by
  induction steps with
  | nil => exact reads_nil
  | cons step steps ih =>
    obtain ⟨hnext, hchain⟩ := List.isChain_cons.1 hsteps
    have ih := ih (fun p hp => hnames p (hp.imp (List.mem_cons_of_mem _) (List.mem_cons_of_mem _)))
      hchain
    cases step with
    | text t =>
      rw [pathPieces, flatMap_addText (by simp), flatMap_addText (by simp [PathPiece.symbols]),
        PathPiece.printed_text]
      exact ih.append (reads_templateChars _ _)
    | path p | query p =>
      have hbehind : EndsName ((pathPieces steps).flatMap PathPiece.printed ++ rest) :=
        endsName_printed (fun step hstep => (hnext step hstep).resolve_left Bool.false_ne_true)
          hrest
      rw [pathPieces, List.flatMap_append, List.flatMap_append]
      refine ih.append ?_
      cases hpiece : p.pathPiece? with
      | none => exact reads_nil
      | some piece =>
        obtain ⟨type, -, rfl⟩ := Option.map_eq_some_iff.1 hpiece
        rw [Option.toList_some, List.flatMap_singleton, List.flatMap_singleton]
        exact PathPiece.reads_value (hnames p (by simp)) type _ hbehind

/-! ## The literal -/

namespace Screen

variable {s : Screen}

theorem path_of_params_eq_nil (h : s.trigger.params = []) : s.trigger.path = [.text s.route] := by
  have hroutable : s.routable = [] := by
    have hnames := s.trigger_params_names
    rw [h, List.map_nil] at hnames
    exact List.map_eq_nil_iff.1 hnames.symm
  have hcarried : s.carried = [] := by
    rw [List.eq_nil_iff_forall_not_mem]
    intro p hp
    rw [mem_carried, hroutable] at hp
    cases hp
  obtain ⟨hrequired, hoptional⟩ := List.append_eq_nil_iff.1 hcarried
  rw [trigger, walk, routeWalk, hrequired, hoptional]
  rfl

/-- **The literal denotes the path**, up to the quote that closes it. -/
theorem readLiteral?_routeExpression (h : ∀ p ∈ s.params, IsSpellable p.name) {rest : List Char}
    (hrest : rest.head? ≠ some '"') :
    readLiteral? (printedFragments s.trigger.routeExpression ++ rest) =
      some (s.trigger.path.flatMap PathPiece.symbols, rest) := by
  by_cases hparams : s.trigger.params = []
  · have hpath := path_of_params_eq_nil hparams
    have hliteral : printedFragments s.trigger.routeExpression =
        (stringLiteral s.route).toList := by
      simp [Trigger.routeExpression, hparams, hpath, PathPiece.fixed, Fragment.text, Text.concat]
    rw [hliteral, hpath, List.flatMap_singleton]
    exact readLiteral?_stringLiteral s.route hrest
  · have hliteral : printedFragments s.trigger.routeExpression ++ rest = '"' :: '"' :: '"' ::
        (s.trigger.path.flatMap PathPiece.printed ++ '"' :: '"' :: '"' :: rest) := by
      have hpieces : printedFragments (s.trigger.path.flatMap PathPiece.fragments) =
          s.trigger.path.flatMap PathPiece.printed := List.flatMap_assoc
      simp [Trigger.routeExpression, hparams, hpieces, Fragment.text]
    have hend : EndsName ('"' :: '"' :: '"' :: rest) := endsName_cons.2 (by decide +kernel)
    rw [hliteral]
    refine readLiteral?_raw (reads_pathPieces (fun p hp => ?_) s.isChain_walk hend) hrest
    exact h p (mem_params_of_carried (mem_carried_of_mem_walk hp))

end Screen

/-! ## The file -/

/-- The trigger's statement, as the file has it. -/
def Trigger.navigateFragments (t : Trigger) : List Fragment :=
  .code "navigate(" :: t.routeExpression ++ [.code ")"]

theorem CodeUnit.navigateFragments_within (u : CodeUnit) (o : SourceOptions) :
    u.trigger.navigateFragments <:+: (u.sourceFile o).fragments o.indent := by
  have hline : u.trigger.navigateFragments <:+:
      SourceFile.lineFragments o.indent ⟨1, u.trigger.navigateFragments⟩ :=
    ⟨[_], [_], rfl⟩
  have hlines : SourceFile.lineFragments o.indent ⟨1, u.trigger.navigateFragments⟩ <:+:
      (u.trigger.lines o).flatMap (SourceFile.lineFragments o.indent) :=
    List.infix_of_mem_flatten (List.mem_map_of_mem (List.mem_cons_of_mem _ List.mem_cons_self))
  have hmember : (u.trigger.lines o).flatMap (SourceFile.lineFragments o.indent) <:+:
      [Fragment.code "\n"].intercalate ((u.sourceFile o).members.map
        fun m => m.flatMap (SourceFile.lineFragments o.indent)) :=
    List.infix_of_mem_flatten
      (List.mem_cons_of_mem _ (List.mem_cons_of_mem _ List.mem_cons_self))
  exact hline.trans (hlines.trans (hmember.trans (List.suffix_append _ _).isInfix))

/-- **The literal that a trigger navigates to denotes the trigger's path.** It stands between the
parentheses of the call. Where every parameter's name can be spelled, it ends where it was closed,
whatever follows but a quote, and denotes the characters and the values of the path in order. -/
theorem trigger_literal_denotes {s : Screen} (h : ∀ p ∈ s.params, IsSpellable p.name)
    (lead : String) (o : SourceOptions) :
    let unit := s.unit lead
    let literal := printedFragments unit.trigger.routeExpression
    (∃ front behind, (unit.sourceText o).toList =
      front ++ "navigate(".toList ++ literal ++ ')' :: behind) ∧
    ∀ rest, rest.head? ≠ some '"' →
      readLiteral? (literal ++ rest) =
        some (unit.trigger.path.flatMap PathPiece.symbols, rest) := by
  refine ⟨?_, fun rest => Screen.readLiteral?_routeExpression h⟩
  obtain ⟨front, behind, hfile⟩ := (s.unit lead).navigateFragments_within o
  refine ⟨printedFragments front, printedFragments behind, ?_⟩
  have htext : ((s.unit lead).sourceText o).toList =
      printedFragments (((s.unit lead).sourceFile o).fragments o.indent) := by
    rw [CodeUnit.sourceText, SourceFile.text, toList_concat, List.flatMap_map]
    rfl
  rw [htext, ← hfile]
  simp [Trigger.navigateFragments, Fragment.text]

/-- A screen with a `$` in its route and a keyword for a name. -/
def keywordScreen : Screen where
  route := "a$b"
  function := "show"
  package := ""
  file := none
  params := [⟨"in", .int none, "Int"⟩, ⟨"name", .string true none, "String?"⟩]

theorem trigger_literal_denotes_keyword :
    readLiteral? ("\"\"\"a$\x7b'$'\x7db/$\x7b\x60in\x60\x7d?name=$\x7bname ?: \"\"\x7d\"\"\"".toList
      ++ [')']) =
    some ("a$b/".toList.map Symbol.char ++ .value "in" false :: "?name=".toList.map Symbol.char ++
      [.value "name" true], [')']) := by
  have hspellable : ∀ p ∈ keywordScreen.params, IsSpellable p.name := by decide
  have hliteral : printedFragments (keywordScreen.unit "NavGen").trigger.routeExpression =
      "\"\"\"a$\x7b'$'\x7db/$\x7b\x60in\x60\x7d?name=$\x7bname ?: \"\"\x7d\"\"\"".toList := by
    decide +kernel
  have hpath : (keywordScreen.unit "NavGen").trigger.path.flatMap PathPiece.symbols =
      "a$b/".toList.map Symbol.char ++ .value "in" false :: "?name=".toList.map Symbol.char ++
        [.value "name" true] := by
    decide +kernel
  rw [← hliteral, ← hpath]
  exact (trigger_literal_denotes hspellable "NavGen" .standard).2 [')'] (by decide)

end ScreenRoutes
