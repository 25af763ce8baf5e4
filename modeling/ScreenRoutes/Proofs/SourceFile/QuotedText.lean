import ScreenRoutes.Proofs.SourceFile.TriggerLiteral

/-!
# Quoted texts

A text in a quoted literal is read back as it was, and the literal ends where it was closed, whatever
follows it (`readQuoted?_stringLiteral`). So different texts have different literals, and no text
that a source file quotes ends its literal early or interpolates anything (`quoted_texts_stay`).
-/

namespace ScreenRoutes

open Text

/-! ## Reading text -/

def Symbol.char? : Symbol → Option Char
  | .char c => some c
  | .value .. => none

/-- The text that the quoted literal at the front denotes, and the rest behind it. There is none
where the literal is not closed, and none where it interpolates a value. -/
def readQuoted? : List Char → Option (String × List Char)
  | '"' :: cs => do
    let (symbols, rest) ← readSymbols quotedStep? cs
    let text ← symbols.mapM Symbol.char?
    return (String.ofList text, rest)
  | _ => none

theorem mapM_char?_map_char (cs : List Char) : (cs.map Symbol.char).mapM Symbol.char? = some cs := by
  induction cs with
  | nil => rfl
  | cons c cs ih =>
    rw [List.map_cons, List.mapM_cons, ih]
    rfl

theorem toList_stringLiteral (text : String) :
    (stringLiteral text).toList = '"' :: text.toList.flatMap literalChar ++ ['"'] :=
  String.toList_ofList

/-- **A text is read back from its quoted literal**, and the literal ends where it was closed. -/
theorem readQuoted?_stringLiteral (text : String) (rest : List Char) :
    readQuoted? ((stringLiteral text).toList ++ rest) = some (text, rest) := by
  have hliteral : (stringLiteral text).toList ++ rest =
      '"' :: (text.toList.flatMap literalChar ++ '"' :: rest) := by
    simp [toList_stringLiteral]
  rw [hliteral, readQuoted?, readSymbols_literalChars]
  simp only [Option.bind_eq_bind, Option.bind_some, mapM_char?_map_char, String.ofList_toList]
  rfl

theorem stringLiteral_injective : Function.Injective stringLiteral := by
  intro s t h
  have hs := readQuoted?_stringLiteral s []
  rw [h, readQuoted?_stringLiteral t []] at hs
  exact (Prod.mk.inj (Option.some.inj hs)).1.symm

/-! ## Lines of a file -/

theorem printedFragments_infix {fs gs : List Fragment} (h : fs <:+: gs) :
    printedFragments fs <:+: printedFragments gs := by
  obtain ⟨front, behind, rfl⟩ := h
  rw [printedFragments_append, printedFragments_append]
  exact ⟨_, _, rfl⟩

theorem CodeUnit.toList_sourceText (u : CodeUnit) (o : SourceOptions) :
    (u.sourceText o).toList = printedFragments ((u.sourceFile o).fragments o.indent) := by
  rw [sourceText, SourceFile.text, toList_concat, List.flatMap_map]
  rfl

/-- A stretch of an interspersed list. -/
theorem infix_intercalate_of_mem {α : Type} (sep : List α) {x : List α} {items : List (List α)}
    (h : x ∈ items) : x <:+: sep.intercalate items := by
  induction items with
  | nil => cases h
  | cons item items ih =>
    cases items with
    | nil =>
      rw [List.intercalate_singleton]
      exact List.mem_singleton.1 h ▸ List.infix_refl x
    | cons next items =>
      rw [List.intercalate_cons_cons]
      rcases List.mem_cons.1 h with rfl | h
      · rw [List.append_assoc]
        exact (List.prefix_append _ _).isInfix
      · exact (ih h).trans (List.suffix_append _ _).isInfix

/-- Every line of a member stands in the text of the file. -/
theorem CodeUnit.line_within {u : CodeUnit} {o : SourceOptions} {line : SourceLine}
    (h : line ∈ (u.sourceFile o).members.flatten) :
    printedFragments (SourceFile.lineFragments o.indent line) <:+: (u.sourceText o).toList := by
  obtain ⟨member, hmember, hline⟩ := List.mem_flatten.1 h
  have hlines : SourceFile.lineFragments o.indent line <:+:
      member.flatMap (SourceFile.lineFragments o.indent) :=
    List.infix_of_mem_flatten (List.mem_map_of_mem hline)
  have hmembers := infix_intercalate_of_mem [Fragment.code "\n"]
    (List.mem_map_of_mem (f := fun m => m.flatMap (SourceFile.lineFragments o.indent)) hmember)
  rw [toList_sourceText, SourceFile.fragments]
  exact printedFragments_infix
    (hlines.trans (hmembers.trans (List.suffix_append _ _).isInfix))

/-! ## Literals in a file -/

/-- How an argument of a type is taken from what was passed. -/
def ArgType.getter : ArgType → String
  | .string => "getString("
  | .int => "getInt("
  | .bool => "getBoolean("

/-- The texts that a unit's file quotes, each with the code in front of it: the pattern of the route,
the names of arguments, and defaults that are text. -/
inductive CodeUnit.Quotes (u : CodeUnit) : (lead text : String) → Prop
  | destination : u.Quotes "composable(" u.registration.pattern
  | argument {a : Argument} : a ∈ u.registration.arguments → u.Quotes "navArgument(" a.name
  | argumentDefault {a : Argument} {text : String} : a ∈ u.registration.arguments →
      a.default = some (.string text) → u.Quotes "; defaultValue = " text
  | extract {name : String} {type : ArgType} {nullable : Bool} :
      .extract name type nullable ∈ u.registration.screen.arguments → u.Quotes type.getter name
  | paramDefault {p : TriggerParam} {text : String} : p ∈ u.trigger.params →
      p.default = .literal (.string text) → u.Quotes " = " text
  | route : u.trigger.params = [] →
      u.Quotes "navigate(" (concat (u.trigger.path.map PathPiece.fixed))
  | constant : u.Quotes "get() = " u.constant.value

/-- Whether a stretch of code has the literal of a text in it, behind the given code and with
something other than a quote behind it. -/
def HasLiteral (code : List Char) (lead text : String) : Prop :=
  ∃ before c behind,
    code = before ++ lead.toList ++ (stringLiteral text).toList ++ c :: behind ∧ c ≠ '"'

theorem HasLiteral.mono {code whole : List Char} {lead text : String}
    (h : HasLiteral code lead text) (hwithin : code <:+: whole) : HasLiteral whole lead text := by
  obtain ⟨before, c, behind, rfl, hc⟩ := h
  obtain ⟨front, rest, rfl⟩ := hwithin
  exact ⟨front ++ before, c, behind ++ rest, by simp, hc⟩

theorem hasLiteral_of_line {indent : String} {l : SourceLine} {lead text : String}
    (h : HasLiteral (printedFragments l.fragments ++ ['\n']) lead text) :
    HasLiteral (printedFragments (SourceFile.lineFragments indent l)) lead text := by
  refine h.mono ?_
  have hline : printedFragments (SourceFile.lineFragments indent l) =
      (concat (List.replicate l.level indent)).toList ++
        (printedFragments l.fragments ++ ['\n']) := by
    simp [SourceFile.lineFragments, Fragment.text]
  rw [hline]
  exact (List.suffix_append _ _).isInfix

/-! ## Lines with literals -/

namespace Registration

variable {r : Registration}

theorem exists_destinationLine (r : Registration) :
    ∃ l ∈ r.lines, HasLiteral (printedFragments l.fragments ++ ['\n']) "composable(" r.pattern := by
  by_cases h : r.screen.arguments.isEmpty || r.arguments.isEmpty
  · refine ⟨⟨1, [.code ("composable(" ++ stringLiteral r.pattern ++ ") \x7b")]⟩, ?_,
      [], ')', " \x7b\n".toList, ?_, by decide⟩
    · simp [lines, openLines, h]
    · simp [Fragment.text]
  · refine ⟨⟨1, [.code ("composable(" ++ stringLiteral r.pattern ++ ",")]⟩, ?_,
      [], ',', "\n".toList, ?_, by decide⟩
    · simp [lines, openLines, h]
    · simp [Fragment.text]

/-- Arguments are declared where the screen is called with some. -/
theorem argumentLine_mem {a : Argument} (ha : a ∈ r.arguments) (h : r.screen.arguments ≠ []) :
    argumentLine a ∈ r.lines := by
  have hnone : ¬ (r.screen.arguments.isEmpty || r.arguments.isEmpty) := by
    have hne := List.ne_nil_of_mem ha
    simp [h, hne]
  simp only [lines, openLines, if_neg hnone, List.mem_append, List.mem_cons]
  have hline := List.mem_map_of_mem (f := argumentLine) ha
  simp [hline]

end Registration

theorem hasLiteral_argumentLine (a : Argument) :
    HasLiteral (printedFragments (argumentLine a).fragments ++ ['\n']) "navArgument(" a.name :=
  ⟨[], ')', " \x7b ".toList ++ (argumentOptions a).toList ++ " \x7d,\n".toList,
    by simp [argumentLine, Fragment.text], by decide⟩

theorem exists_argumentOptions {a : Argument} {text : String} (h : a.default = some (.string text)) :
    ∃ front, argumentOptions a = front ++ ("; defaultValue = " ++ stringLiteral text) := by
  cases a with
  | mk name type nullable default =>
    obtain rfl : default = some (.string text) := h
    exact ⟨"type = NavType." ++ type.constantName ++ if nullable then "; nullable = true" else "",
      rfl⟩

theorem hasLiteral_argumentDefault {a : Argument} {text : String}
    (h : a.default = some (.string text)) :
    HasLiteral (printedFragments (argumentLine a).fragments ++ ['\n']) "; defaultValue = " text := by
  obtain ⟨front, hoptions⟩ := exists_argumentOptions h
  exact ⟨("navArgument(" ++ stringLiteral a.name ++ ") \x7b " ++ front).toList, ' ',
    "\x7d,\n".toList, by simp [argumentLine, hoptions, Fragment.text], by decide⟩

/-- The line of an argument that a screen is called with has the argument's name in it. -/
theorem hasLiteral_extract (name : String) (type : ArgType) (nullable : Bool) :
    HasLiteral (printedFragments ((CallArgument.extract name type nullable).fragments ++ [.code ","])
      ++ ['\n']) type.getter name := by
  have hread (front back : String) (behind : List Char)
      (hback : back.toList = ')' :: behind) :
      HasLiteral (printedFragments ([.code (front ++ type.getter ++ stringLiteral name ++ back)] ++
        [.code ","]) ++ ['\n']) type.getter name :=
    ⟨front.toList, ')', behind ++ ",\n".toList, by simp [Fragment.text, hback], by decide⟩
  cases type with
  | string =>
    cases nullable with
    | true => exact hread "backStackEntry.arguments?." ")" [] rfl
    | false => exact hread "backStackEntry.arguments!!." ")!!" _ rfl
  | int => exact hread "backStackEntry.arguments!!." ")" [] rfl
  | bool => exact hread "backStackEntry.arguments!!." ")" [] rfl

namespace Registration

variable {r : Registration}

theorem callLine_mem {a : CallArgument} (h : a ∈ r.screen.arguments) :
    ⟨3, a.fragments ++ [.code ","]⟩ ∈ r.lines := by
  have hnone : ¬ r.screen.arguments.isEmpty := by
    have hne := List.ne_nil_of_mem h
    simp [hne]
  have hline := List.mem_map_of_mem (f := fun a : CallArgument =>
    (⟨3, a.fragments ++ [.code ","]⟩ : SourceLine)) h
  simp only [lines, callLines, if_neg hnone, List.mem_append, List.mem_cons]
  simp [hline]

end Registration

/-- What follows an item of a list with commas is a comma, or what follows the list. -/
theorem exists_commaSeparated {items : List (List Fragment)} {item : List Fragment}
    (h : item ∈ items) (rest : List Char) :
    ∃ front behind, printedFragments (commaSeparated items) ++ rest =
      front ++ printedFragments item ++ behind ∧
      (behind = rest ∨ ∃ more, behind = ',' :: more) := by
  rw [commaSeparated]
  induction items with
  | nil => cases h
  | cons first items ih =>
    cases items with
    | nil =>
      rw [List.mem_singleton.1 h]
      exact ⟨[], rest, by simp, .inl rfl⟩
    | cons next items =>
      rw [List.intercalate_cons_cons]
      rcases List.mem_cons.1 h with rfl | h
      · refine ⟨[], ", ".toList ++ (printedFragments ([Fragment.code ", "].intercalate
          (next :: items)) ++ rest), ?_, .inr ⟨_, rfl⟩⟩
        simp [Fragment.text]
      · obtain ⟨front, behind, hprinted, hbehind⟩ := ih h
        refine ⟨printedFragments first ++ ", ".toList ++ front, behind, ?_, hbehind⟩
        rw [printedFragments_append, List.append_assoc, hprinted]
        simp [Fragment.text]

theorem TriggerParam.printed_default {p : TriggerParam} {text : String}
    (h : p.default = .literal (.string text)) (o : SourceOptions) :
    printedFragments (p.fragments o) =
      (spellName p.name ++ ": " ++ (spellType o p.source).text).toList ++ " = ".toList ++
        (stringLiteral text).toList := by
  simp [fragments, h, Value.literal, Fragment.text]

namespace Trigger

variable {t : Trigger}

theorem exists_defaultLine {p : TriggerParam} {text : String} (hp : p ∈ t.params)
    (h : p.default = .literal (.string text)) (o : SourceOptions) :
    ∃ l ∈ t.lines o, HasLiteral (printedFragments l.fragments ++ ['\n']) " = " text := by
  obtain ⟨front, behind, hprinted, hbehind⟩ := exists_commaSeparated
    (List.mem_map_of_mem (f := fun p : TriggerParam => p.fragments o) hp) "): Unit \x7b\n".toList
  have hnext : ∃ c more, behind = c :: more ∧ c ≠ '"' := by
    rcases hbehind with rfl | ⟨more, rfl⟩
    · exact ⟨')', _, rfl, by decide⟩
    · exact ⟨',', more, rfl, by decide⟩
  obtain ⟨c, more, rfl, hc⟩ := hnext
  let opened := ("public fun NavController." ++ spellName t.name ++ "(").toList
  refine ⟨_, List.mem_cons_self, opened ++ front ++
    (spellName p.name ++ ": " ++ (spellType o p.source).text).toList, c, more, ?_, hc⟩
  have hline : printedFragments (.code "public fun NavController." :: .name (spellName t.name) ::
      .code "(" :: commaSeparated (t.params.map (·.fragments o)) ++ [.code "): Unit \x7b"]) ++
        ['\n'] =
      opened ++ (printedFragments (commaSeparated (t.params.map (·.fragments o))) ++
        "): Unit \x7b\n".toList) := by
    simp [opened, Fragment.text]
  rw [hline, hprinted, p.printed_default h]
  simp only [List.append_assoc]

/-- Without parameters the route is in one literal. -/
theorem exists_routeLine (h : t.params = []) (o : SourceOptions) :
    ∃ l ∈ t.lines o, HasLiteral (printedFragments l.fragments ++ ['\n']) "navigate("
      (concat (t.path.map PathPiece.fixed)) :=
  ⟨_, List.mem_cons_of_mem _ List.mem_cons_self, [], ')', ['\n'],
    by simp [routeExpression, h, Fragment.text], by decide⟩

end Trigger

theorem RouteConstant.exists_valueLine (c : RouteConstant) :
    ∃ l ∈ c.lines, HasLiteral (printedFragments l.fragments ++ ['\n']) "get() = " c.value :=
  ⟨_, List.mem_cons_of_mem _ List.mem_cons_self, [], '\n', [], by simp [Fragment.text], by decide⟩

/-! ## Files with literals -/

/-- Only a screen that is called with something has arguments to declare. -/
theorem Screen.screenArguments_ne_nil {s : Screen} {a : Argument}
    (h : a ∈ s.registration.arguments) : s.registration.screen.arguments ≠ [] := by
  obtain ⟨p, hp, -⟩ := List.mem_filterMap.1 h
  have hparam : p ∈ s.params := List.mem_of_mem_filter hp
  exact List.ne_nil_of_mem (List.mem_map_of_mem hparam)

/-- Each text that a unit quotes is in a line of a member. -/
theorem Screen.exists_quotedLine {s : Screen} {lead front text : String}
    (h : (s.unit lead).Quotes front text) (o : SourceOptions) :
    ∃ l ∈ ((s.unit lead).sourceFile o).members.flatten,
      HasLiteral (printedFragments l.fragments ++ ['\n']) front text := by
  have hlines : ((s.unit lead).sourceFile o).members.flatten =
      s.registration.lines ++ s.trigger.lines o ++ (s.unit lead).constant.lines := by
    simp [CodeUnit.sourceFile, unit]
  simp only [hlines, List.mem_append]
  cases h with
  | destination =>
    obtain ⟨l, hl, hliteral⟩ := s.registration.exists_destinationLine
    exact ⟨l, .inl (.inl hl), hliteral⟩
  | argument ha =>
    have hline := Registration.argumentLine_mem ha (screenArguments_ne_nil ha)
    exact ⟨_, .inl (.inl hline), hasLiteral_argumentLine _⟩
  | argumentDefault ha hdefault =>
    have hline := Registration.argumentLine_mem ha (screenArguments_ne_nil ha)
    exact ⟨_, .inl (.inl hline), hasLiteral_argumentDefault hdefault⟩
  | extract hextract =>
    have hline := Registration.callLine_mem hextract
    exact ⟨_, .inl (.inl hline), hasLiteral_extract _ _ _⟩
  | paramDefault hp hdefault =>
    obtain ⟨l, hl, hliteral⟩ := Trigger.exists_defaultLine hp hdefault o
    exact ⟨l, .inl (.inr hl), hliteral⟩
  | route hparams =>
    obtain ⟨l, hl, hliteral⟩ := Trigger.exists_routeLine hparams o
    exact ⟨l, .inl (.inr hl), hliteral⟩
  | constant =>
    obtain ⟨l, hl, hliteral⟩ := (s.unit lead).constant.exists_valueLine
    exact ⟨l, .inr hl, hliteral⟩

theorem Screen.hasLiteral_sourceText {s : Screen} {lead front text : String}
    (h : (s.unit lead).Quotes front text) (o : SourceOptions) :
    HasLiteral ((s.unit lead).sourceText o).toList front text := by
  obtain ⟨l, hl, hliteral⟩ := s.exists_quotedLine h o
  exact (hasLiteral_of_line hliteral).mono (CodeUnit.line_within hl)

/-- **Quoted texts stay in their literals.** A text is read back from its literal, which ends where
it was closed, whatever follows; different texts have different literals. And wherever a screen's
file quotes the pattern of its route, the name of an argument or a default, what is read from there
is that text and nothing else. -/
theorem quoted_texts_stay :
    (∀ text rest, readQuoted? ((stringLiteral text).toList ++ rest) = some (text, rest)) ∧
    Function.Injective stringLiteral ∧
    ∀ (s : Screen) (lead : String) (o : SourceOptions) (front text : String),
      (s.unit lead).Quotes front text →
        ∃ before behind,
          ((s.unit lead).sourceText o).toList =
            before ++ front.toList ++ (stringLiteral text).toList ++ behind ∧
          readLiteral? ((stringLiteral text).toList ++ behind) =
            some (text.toList.map .char, behind) := by
  refine ⟨readQuoted?_stringLiteral, stringLiteral_injective, fun s lead o front text h => ?_⟩
  obtain ⟨before, c, behind, hsource, hc⟩ := s.hasLiteral_sourceText h o
  have hnext : (c :: behind).head? ≠ some '"' := fun hquote => hc (Option.some.inj hquote)
  exact ⟨before, c :: behind, hsource, readLiteral?_stringLiteral text hnext⟩

/-- The screen `Show(q: String)` with a default that would close its literal, interpolate `q` and
escape the quote behind it. -/
def quotingScreen : Screen where
  route := "show"
  function := "Show"
  package := "co.app"
  file := none
  params := [⟨"q", .string false (some "\"$\x7bq\x7d\\"), "String"⟩]

theorem quoted_texts_stay_show :
    (quotingScreen.unit "NavGen").Quotes " = " "\"$\x7bq\x7d\\" ∧
    ∃ before behind,
      ((quotingScreen.unit "NavGen").sourceText .standard).toList =
        before ++ " = ".toList ++ (stringLiteral "\"$\x7bq\x7d\\").toList ++ behind ∧
      readLiteral? ((stringLiteral "\"$\x7bq\x7d\\").toList ++ behind) =
        some ("\"$\x7bq\x7d\\".toList.map .char, behind) := by
  have hparam : ⟨"q", "String", .string, false, .literal (.string "\"$\x7bq\x7d\\")⟩ ∈
      (quotingScreen.unit "NavGen").trigger.params := List.mem_singleton.2 rfl
  have hquotes : (quotingScreen.unit "NavGen").Quotes " = " "\"$\x7bq\x7d\\" :=
    .paramDefault hparam rfl
  exact ⟨hquotes, quoted_texts_stay.2.2 _ _ _ _ _ hquotes⟩

end ScreenRoutes
