import ScreenRoutes.Expansion.Annotation
import ScreenRoutes.Proofs.Text.Cut
import ScreenRoutes.Proofs.Text.Identifier
import ScreenRoutes.Proofs.Token.Words

/-!
# The traits of an expansion

An expansion's traits are named for its route, with the first letter in upper case. A route that can
be expanded is a word. Where it is an identifier so are the names, whatever its first letter is in
upper case; a raw word leaves its mark in the middle of the names, where no identifier has one, and
then there is no code at all.
-/

namespace ScreenRoutes

open Text

def IsRawRoute (route : String) : Prop :=
  ∃ name, route = "r#" ++ name

theorem isRawRoute_iff {route : String} :
    IsRawRoute route ↔ ∃ cs, route.toList = 'r' :: '#' :: cs := by
  constructor
  · rintro ⟨name, rfl⟩
    exact ⟨name.toList, String.toList_append⟩
  · rintro ⟨cs, hcs⟩
    refine ⟨String.ofList cs, String.toList_inj.1 ?_⟩
    have hmark : "r#".toList = ['r', '#'] := rfl
    rw [hcs, String.toList_append, hmark, String.toList_ofList, List.cons_append, List.cons_append,
      List.nil_append]

/-! ## Names with a lead -/

theorem toList_unitName (route : String) :
    (unitName defaultUnitPrefix route).toList =
      'N' :: ("avGen".toList ++ (capitalize route).toList) :=
  String.toList_append

/-- Names led in as those of units are not raw. -/
theorem unraw_unitName (route suffix : String) :
    unraw (unitName defaultUnitPrefix route ++ suffix) =
      unitName defaultUnitPrefix route ++ suffix := by
  have hplain : after? ['r', '#'] (unitName defaultUnitPrefix route ++ suffix).toList = none := by
    rw [String.toList_append, toList_unitName]
    rfl
  rw [unraw, hplain]

theorem isIdentifier_unitName_append {suffix : String} (h : suffix.toList.all isIdentifierRest)
    (route : String) :
    isIdentifier (unitName defaultUnitPrefix route ++ suffix).toList =
      (capitalize route).toList.all isIdentifierRest := by
  have hstart : isIdentifierStart 'N' := by decide +kernel
  have hlead : "avGen".toList.all isIdentifierRest := by decide +kernel
  rw [String.toList_append, toList_unitName, List.cons_append, isIdentifier, hstart, List.all_append,
    List.all_append, hlead, h, Bool.true_and, Bool.true_and, Bool.and_true]

theorem Expansion.isNameable_iff {e : Expansion} {route : String}
    (h : e.unit = unitName defaultUnitPrefix route) :
    e.isNameable ↔ (capitalize route).toList.all isIdentifierRest := by
  have hgraph : "Graph".toList.all isIdentifierRest := by decide +kernel
  have hnavigate : "Navigate".toList.all isIdentifierRest := by decide +kernel
  have hroute : "Route".toList.all isIdentifierRest := by decide +kernel
  simp only [isNameable, traits, h, List.all_cons, List.all_nil, unraw_unitName,
    isIdentifier_unitName_append hgraph, isIdentifier_unitName_append hnavigate,
    isIdentifier_unitName_append hroute, Bool.and_true, Bool.and_self]

/-! ## Upper case -/

theorem toList_capitalize {route : String} {c : Char} {cs : List Char}
    (h : route.toList = c :: cs) : (capitalize route).toList = upper c ++ cs := by
  rw [capitalize, h, String.toList_ofList]

theorem all_capitalize {route : String} (h : isIdentifier route.toList) :
    (capitalize route).toList.all isIdentifierRest := by
  cases hroute : route.toList with
  | nil => rw [hroute] at h; cases h
  | cons c cs =>
    rw [hroute, isIdentifier, Bool.and_eq_true] at h
    rw [toList_capitalize hroute, List.all_append, h.2, Bool.and_true, List.all_eq_true]
    exact isIdentifierRest_upper h.1

/-- The mark of a raw word is in no identifier. -/
theorem not_isIdentifierRest_mark : ¬ isIdentifierRest '#' := by
  decide +kernel

theorem not_all_capitalize {route : String} (h : IsRawRoute route) :
    ¬ (capitalize route).toList.all isIdentifierRest := by
  obtain ⟨cs, hcs⟩ := isRawRoute_iff.1 h
  intro hall
  rw [toList_capitalize hcs, List.all_append, List.all_cons, Bool.and_eq_true, Bool.and_eq_true]
    at hall
  exact not_isIdentifierRest_mark hall.2.1

/-- **Where the route is a word, the traits have names unless the word is raw.** -/
theorem Expansion.isNameable_iff_not_raw {e : Expansion} {route : String}
    (hword : IsWord route.toList) (h : e.unit = unitName defaultUnitPrefix route) :
    e.isNameable ↔ ¬ IsRawRoute route := by
  rw [isNameable_iff h]
  refine ⟨fun hall hraw => not_all_capitalize hraw hall, fun hraw => ?_⟩
  obtain hplain | ⟨name, hname, -⟩ := hword
  · exact all_capitalize hplain
  · exact absurd (isRawRoute_iff.2 ⟨name, hname⟩) hraw

/-! ## Expansions -/

/-- A route with a name that has an identifier is a word. -/
theorem isWord_of_routeIdentifier {route w : String} (h : routeIdentifier route = .ok w)
    (hne : ¬ route.isEmpty) : IsWord route.toList := by
  rw [routeIdentifier, if_neg hne] at h
  split at h
  · next v hlex =>
    split at h
    · next hv =>
      obtain ⟨-, rfl⟩ := hv
      have hworded := worded_of_lex? hlex (.ident v) List.mem_cons_self
      cases hworded with
      | ident hword => exact hword
    · cases h
  · cases h

/-- What a function that can be read is made of. -/
theorem ScreenFunction.exists_of_read {route : String} {f : FunctionItem}
    {function : ScreenFunction} {declaration : Declaration}
    (h : ScreenFunction.read route f = .ok (function, declaration)) :
    ∃ params w, f.signature.params.mapM FunctionParam.read = .ok params ∧
      routeIdentifier route = .ok w ∧
      function = ⟨f.visibility, f.signature.name, w, params.map (·.1)⟩ ∧
      declaration = ⟨"", unraw f.signature.name, route, none, params.map (·.2)⟩ := by
  rw [ScreenFunction.read] at h
  split at h
  · cases h
  · split at h
    · cases h
    · cases hparams : f.signature.params.mapM FunctionParam.read with
      | error fault => rw [hparams] at h; cases h
      | ok params =>
        cases hident : routeIdentifier route with
        | error fault => rw [hparams, hident] at h; cases h
        | ok w =>
          rw [hparams, hident] at h
          cases h
          exact ⟨params, w, rfl, rfl, rfl, rfl⟩

/-- What a declaration that can be classified is made of. -/
theorem Declaration.exists_of_classify {d : Declaration} {table : TypeTable} {s : Screen}
    (h : d.classify table = .ok s) :
    ¬ d.route.isEmpty ∧ ∃ params, classifyParams d.function table [] d.params = (params, none) ∧
      s = ⟨d.route, d.function, d.package, d.file, params⟩ := by
  rw [classify] at h
  split at h
  · cases h
  · next hne =>
    split at h
    · cases h
    · next params hparams =>
      cases h
      exact ⟨hne, params, hparams, rfl⟩

/-- What can be expanded is a function that declares a screen. -/
theorem FunctionItem.exists_of_expansion {f : FunctionItem} {route : String} {e : Expansion}
    (h : f.expansion route = .ok e) :
    ∃ function declaration s, ScreenFunction.read route f = .ok (function, declaration) ∧
      declaration.classify .ofModules = .ok s ∧
      e = (s.unit defaultUnitPrefix).expansion function := by
  rw [expansion] at h
  cases hread : ScreenFunction.read route f with
  | error fault => rw [hread] at h; cases h
  | ok result =>
    obtain ⟨function, declaration⟩ := result
    rw [hread] at h
    cases hclassify : declaration.classify .ofModules with
    | error error =>
      simp only [Except.mapError, hclassify, bind, Except.bind] at h
      cases h
    | ok s =>
      simp only [Except.mapError, hclassify, bind, Except.bind] at h
      cases h
      exact ⟨function, declaration, s, rfl, hclassify, rfl⟩

/-- What can be expanded has a word for its route, and its unit is named for it. -/
theorem FunctionItem.expansion_eq_ok {f : FunctionItem} {route : String} {e : Expansion}
    (h : f.expansion route = .ok e) :
    IsWord route.toList ∧ e.unit = unitName defaultUnitPrefix route ∧
      e.visibility = f.visibility := by
  obtain ⟨function, declaration, s, hread, hclassify, rfl⟩ := exists_of_expansion h
  obtain ⟨params, w, -, hident, rfl, rfl⟩ := ScreenFunction.exists_of_read hread
  obtain ⟨hne, params', -, rfl⟩ := Declaration.exists_of_classify hclassify
  exact ⟨isWord_of_routeIdentifier hident hne, rfl, rfl⟩

theorem FunctionItem.isNameable_expansion_iff {f : FunctionItem} {route : String} {e : Expansion}
    (h : f.expansion route = .ok e) : e.isNameable ↔ ¬ IsRawRoute route := by
  obtain ⟨hword, hunit, -⟩ := expansion_eq_ok h
  exact Expansion.isNameable_iff_not_raw hword hunit

/-! ## Code -/

/-- **Code cannot be written exactly for screens whose route is a raw word**; everything else that
is wrong is told by an error message. -/
theorem annotate_unwritten_iff (arguments item : Tokens) :
    (annotate arguments item).tokens? = none ↔
      ∃ route f e, readRouteName arguments = .ok route ∧ FunctionItem.read item = .ok f ∧
        f.expansion route = .ok e ∧ IsRawRoute route := by
  cases hroute : readRouteName arguments with
  | error fault => simp [annotate, hroute, Annotated.tokens?]
  | ok route =>
    cases hread : FunctionItem.read item with
    | error fault => simp [annotate, hroute, hread, Annotated.tokens?]
    | ok f =>
      cases hexpansion : f.expansion route with
      | error fault => simp [annotate, hroute, hread, hexpansion, Annotated.tokens?]
      | ok e =>
        have hnameable := FunctionItem.isNameable_expansion_iff hexpansion
        simp [annotate, hroute, hread, hexpansion, Annotated.tokens?, hnameable]

/-- The route `r#type` of a function without parameters passes every check, and there is no code
for it. -/
theorem raw_route_unwritten :
    readRouteName [.literal "\"r#type\""] = .ok "r#type" ∧
      (FunctionItem.read
        [.ident "fn", .ident "x", .group .paren [], .group .brace []]).isOk ∧
      (annotate [.literal "\"r#type\""]
        [.ident "fn", .ident "x", .group .paren [], .group .brace []]).tokens? = none := by
  decide +kernel

end ScreenRoutes
