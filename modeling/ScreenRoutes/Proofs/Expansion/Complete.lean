import ScreenRoutes.Proofs.Expansion.Bodies
import ScreenRoutes.Proofs.Expansion.Parameters

/-!
# Nothing is left out

An expansion looks up the names of the code unit among the parameters of the annotated function, and
a name that is not found leaves nothing behind. This never happens: a screen's parameter is found
where it is declared (`Declares.forall₂_param?`). The code so has an expression for each parameter
in the call of the function, a formal parameter and two statements for each handle, and in the
trigger a formal parameter for each argument, a binding for each literal, and a statement for each
piece of the path (`nothing_left_out`).
-/

namespace ScreenRoutes

open TokenTree (mark)

/-! ## What the code has for a parameter -/

/-- The parameters of a screen with those of its function, as they are declared. -/
def Screen.paired (s : Screen) (f : ScreenFunction) : List (Parameter × ScreenParam) :=
  s.params.zip f.params

def Screen.handleIdents (s : Screen) (f : ScreenFunction) : List String :=
  ((s.paired f).filter fun (p, _) => !p.role.isRoutable).map fun (_, x) => x.ident

namespace Parameter

def expression (p : Parameter) (x : ScreenParam) : CallExpression :=
  match p.role.type? with
  | none => .handle x.ident x.type.inner.isSome
  | some type => .extract p.name type (type = .string && p.role.isNullable)

def formal (p : Parameter) (x : ScreenParam) : NavigateFormal where
  ident := x.ident
  type := x.type
  optional := p.role.default?.isSome && !p.role.isNullable

/-- The binding of the literal that stands in for an argument left out. -/
def binding? (p : Parameter) (x : ScreenParam) : Option DefaultBinding :=
  p.role.default?.map fun v => ⟨x.ident, v⟩

/-- The statement that puts the argument behind the route. -/
def push (p : Parameter) (x : ScreenParam) (type : ArgType) : Push :=
  match type, p.role.paramDefault with
  | .string, .absent => .encodedIfPresent x.ident
  | .string, _ => .encoded x.ident
  | _, _ => .printed x.ident

end Parameter

/-- Which statement puts a piece of the path behind the route. -/
inductive PathPiece.Pushes (ps : List (Parameter × ScreenParam)) : PathPiece → Push → Prop
  | text (s : String) : Pushes ps (.text s) (.text s)
  | value {p : Parameter} {x : ScreenParam} {type : ArgType} : (p, x) ∈ ps →
      p.role.type? = some type →
      Pushes ps (.value p.name type p.role.isNullable) (p.push x type)

/-! ## The parameters are found -/

namespace ScreenFunction.Declares

variable {f : ScreenFunction} {s : Screen} (h : f.Declares s)
include h

/-- Each parameter of the screen is found where it is declared. -/
theorem forall₂_param? :
    List.Forall₂ (fun p x => p.name = x.name ∧ f.param? p.name = some x) s.params f.params := by
  have hnames : List.Forall₂ (fun p x => p.name = x.name) s.params f.params := by
    have heq := h.names_eq
    rwa [← List.forall₂_eq_eq_eq, List.forall₂_map_left_iff, List.forall₂_map_right_iff] at heq
  have hnodup : (f.params.map (·.name)).Nodup := h.names_eq ▸ h.names_nodup
  rw [List.forall₂_iff_zip] at hnames ⊢
  refine ⟨hnames.1, fun {p x} hpx => ⟨hnames.2 hpx, ?_⟩⟩
  obtain ⟨hp, hx⟩ := List.of_mem_zip hpx
  obtain ⟨x', hx', hname⟩ := h.exists_param? hp
  obtain rfl : x' = x := List.inj_on_of_nodup_map hnodup (List.mem_of_find?_eq_some hx') hx
    (hname.trans (hnames.2 hpx))
  exact hx'

theorem param?_of_mem_paired {p : Parameter} {x : ScreenParam} (hpx : (p, x) ∈ s.paired f) :
    f.param? p.name = some x :=
  ((List.forall₂_iff_zip.1 h.forall₂_param?).2 hpx).2

theorem map_fst_paired : (s.paired f).map (·.1) = s.params :=
  List.map_fst_zip (le_of_eq (List.forall₂_iff_zip.1 h.forall₂_param?).1)

theorem mem_paired_of_param? {p : Parameter} {x : ScreenParam} (hp : p ∈ s.params)
    (hx : f.param? p.name = some x) : (p, x) ∈ s.paired f := by
  rw [← h.map_fst_paired] at hp
  obtain ⟨⟨p, x'⟩, hpx, rfl⟩ := List.mem_map.1 hp
  obtain rfl := Option.some.inj ((h.param?_of_mem_paired hpx).symm.trans hx)
  exact hpx

/-- A pass that looks parameters up goes along the pairs. -/
theorem filterMap_filter_params {β : Type} (keep : Parameter → Bool)
    (g : Parameter → ScreenParam → Option β) :
    (s.params.filter keep).filterMap (fun p => (f.param? p.name).bind (g p)) =
      ((s.paired f).filter fun (p, _) => keep p).filterMap fun (p, x) => g p x := by
  conv_lhs => rw [← h.map_fst_paired, List.filter_map, List.filterMap_map]
  refine List.filterMap_congr ?_
  rintro ⟨p, x⟩ hpx
  rw [Function.comp_apply, h.param?_of_mem_paired (List.mem_filter.1 hpx).1, Option.bind_some]

end ScreenFunction.Declares

/-! ## The methods -/

theorem Role.literal?_paramDefault (r : Role) : r.paramDefault.literal? = r.default? := by
  rw [paramDefault]
  cases r.default? <;> cases r.isNullable <;> rfl

theorem Role.default?_of_not_isRoutable {r : Role} (h : ¬ r.isRoutable) : r.default? = none := by
  cases r with
  | handle => rfl
  | string | int | bool => exact absurd rfl h

theorem Trigger.param?_of_mem_namedParams {f : ScreenFunction} {t : Trigger} {q : TriggerParam}
    {x : ScreenParam} (h : (q, x) ∈ t.namedParams f) : f.param? q.name = some x := by
  obtain ⟨q', -, hx⟩ := List.mem_filterMap.1 h
  obtain ⟨x', hx', heq⟩ := Option.map_eq_some_iff.1 hx
  obtain ⟨rfl, rfl⟩ := Prod.mk.inj heq
  exact hx'

/-- A value on the path is that of a parameter that the route carries. -/
theorem Screen.exists_of_mem_trigger_path {s : Screen} {name : String} {type : ArgType}
    {nullable : Bool} (h : .value name type nullable ∈ s.trigger.path) :
    ∃ p ∈ s.routable, p.role.type? = some type ∧ p.name = name ∧
      p.role.isNullable = nullable := by
  have hvalues : s.trigger.path.filter (!·.isText) = s.carried.filterMap Parameter.pathPiece? :=
    (filter_pathPieces s.walk).trans s.filterMap_walk
  have hvalue : .value name type nullable ∈ s.trigger.path.filter (!·.isText) :=
    List.mem_filter.2 ⟨h, rfl⟩
  rw [hvalues] at hvalue
  obtain ⟨p, hp, hpiece⟩ := List.mem_filterMap.1 hvalue
  obtain ⟨type', htype, heq⟩ := Option.map_eq_some_iff.1 hpiece
  obtain ⟨hname, rfl, hnullable⟩ := PathPiece.value.inj heq
  exact ⟨p, mem_carried.1 hp, htype, hname, hnullable⟩

theorem Parameter.expression_ne_nothing (p : Parameter) (x : ScreenParam) :
    p.expression x ≠ .nothing := by
  rw [expression]
  split <;> nofun

namespace ScreenFunction.Declares

variable {f : ScreenFunction} {s : Screen} (h : f.Declares s)
include h

/-- Each parameter has its expression in the call. -/
theorem call_eq :
    (s.registration.method f).call = (s.paired f).map fun (p, x) => p.expression x := by
  have hcall : (s.registration.method f).call =
      s.params.map fun p => p.callArgument.expression f := by
    rw [Registration.method, Screen.registration, List.map_map]
    rfl
  rw [hcall]
  conv_lhs => rw [← h.map_fst_paired, List.map_map]
  refine List.map_congr_left ?_
  rintro ⟨p, x⟩ hpx
  show p.callArgument.expression f = p.expression x
  rw [Parameter.expression, Parameter.callArgument]
  cases p.role.type? with
  | none => simp only [CallArgument.expression, h.param?_of_mem_paired hpx]
  | some type => rfl

/-- Each handle has its identifier. -/
theorem handles_eq : (s.registration.method f).handles = s.handleIdents f := by
  have hhandles : (s.registration.method f).handles =
      s.handles.filterMap fun p => (f.param? p.name).bind fun x => some x.ident := by
    rw [Registration.method, Screen.registration, List.filterMap_map]
    refine List.filterMap_congr fun p _ => ?_
    exact Option.map_eq_bind
  rw [hhandles, Screen.handles, h.filterMap_filter_params, Screen.handleIdents,
    ← List.filterMap_eq_map]
  rfl

theorem namedParams_eq :
    s.trigger.namedParams f = ((s.paired f).filter fun (p, _) => p.role.isRoutable).filterMap
      fun (p, x) => p.triggerParam?.map fun q => (q, x) := by
  have hnamed : s.trigger.namedParams f = s.routable.filterMap fun p =>
      (f.param? p.name).bind fun x => p.triggerParam?.map fun q => (q, x) := by
    rw [Trigger.namedParams, Screen.trigger, List.filterMap_filterMap]
    refine List.filterMap_congr fun p _ => ?_
    cases hq : p.triggerParam? with
    | none => cases f.param? p.name <;> rfl
    | some q =>
      rw [Option.bind_some, (Parameter.triggerParam?_eq_some_iff.1 hq).2.1]
      cases f.param? p.name <;> rfl
  rw [hnamed, Screen.routable, h.filterMap_filter_params]

/-- Each parameter that a route carries has its formal parameter. -/
theorem formals_eq :
    (s.trigger.method f).formals =
      ((s.paired f).filter fun (p, _) => p.role.isRoutable).map fun (p, x) => p.formal x := by
  have hformals : (s.trigger.method f).formals =
      (s.trigger.namedParams f).map fun qx => qx.1.formal qx.2 := rfl
  rw [hformals, h.namedParams_eq, List.map_filterMap, ← List.filterMap_eq_map]
  refine List.filterMap_congr ?_
  rintro ⟨p, x⟩ hpx
  obtain ⟨type, htype⟩ := Option.isSome_iff_exists.1 (List.mem_filter.1 hpx).2
  simp only [Parameter.triggerParam?, htype, Option.map_some, TriggerParam.formal,
    Role.literal?_paramDefault]
  rfl

/-- Each parameter with a literal has its binding. -/
theorem bindings_eq :
    (s.trigger.method f).bindings = (s.paired f).filterMap fun (p, x) => p.binding? x := by
  have hbindings : (s.trigger.method f).bindings = (s.trigger.namedParams f).filterMap fun qx =>
      qx.1.default.literal?.map fun v => ⟨qx.2.ident, v⟩ := rfl
  rw [hbindings, h.namedParams_eq, List.filterMap_filterMap, List.filterMap_filter]
  refine List.filterMap_congr ?_
  rintro ⟨p, x⟩ -
  simp only [Parameter.binding?]
  split
  · next hroutable =>
    obtain ⟨type, htype⟩ := Option.isSome_iff_exists.1 hroutable
    simp only [Parameter.triggerParam?, htype, Option.map_some, Option.bind_some,
      Role.literal?_paramDefault]
  · next hroutable => rw [Role.default?_of_not_isRoutable hroutable, Option.map_none]

/-- Each piece of the path has its statement. -/
theorem forall₂_pushes :
    List.Forall₂ (PathPiece.Pushes (s.paired f)) s.trigger.path (s.trigger.method f).pushes := by
  rw [Trigger.method, List.forall₂_map_right_iff, List.forall₂_same]
  intro piece hpiece
  cases piece with
  | text t => exact .text t
  | value name type nullable =>
    obtain ⟨p, hp, htype, rfl, rfl⟩ := Screen.exists_of_mem_trigger_path hpiece
    obtain ⟨hparams, hroutable⟩ := Screen.mem_routable.1 hp
    obtain ⟨q, hq⟩ := p.exists_triggerParam? hroutable
    obtain ⟨x, hx, hnamed⟩ :=
      h.find?_namedParams ((Screen.find?_trigger_params h.names_nodup hp).trans hq)
    obtain ⟨-, hname, -, -, hdefault⟩ := Parameter.triggerParam?_eq_some_iff.1 hq
    have hpx : (p, x) ∈ s.paired f :=
      h.mem_paired_of_param? hparams (hname ▸ Trigger.param?_of_mem_namedParams hx)
    have hpush : (PathPiece.value p.name type p.role.isNullable).push (s.trigger.namedParams f) =
        p.push x type := by
      simp only [PathPiece.push, hnamed]
      cases type <;> cases hq : q.default <;> simp [Parameter.push, ← hdefault, hq]
    rw [hpush]
    exact .value hpx htype

end ScreenFunction.Declares

/-! ## The traits -/

/-- Whether the code of a trait registers the screen: with a formal parameter for each handle, which
is weakened in front of the closure and regained inside it, a description of each argument, and in
the call of the function an expression for each parameter. -/
structure Registers (c : TraitCode) (f : ScreenFunction) (s : Screen) : Prop where
  signature_eq : c.signature = signature f.route (code "& mut self")
    ((s.handleIdents f).map handleFormal) (code "& mut Self")
  body : ∃ descriptions closure call : Tokens,
    statements c.body = (s.handleIdents f).map weakenTokens ++
      [registerTokens s.pattern descriptions (closureTokens closure)] ∧
    expressions descriptions = s.registration.arguments.map Argument.tokens ∧
    statements closure = (s.handleIdents f).map regainTokens ++ [callTokens f.function call] ∧
    expressions call = (s.paired f).map fun (p, x) => (p.expression x).tokens

/-- Whether the code of a trait navigates to the screen: with a formal parameter for each argument,
a binding for each literal, and a statement for each piece of the path. -/
structure Navigates (c : TraitCode) (f : ScreenFunction) (s : Screen) : Prop where
  signature_eq : c.signature = signature f.route (code "& self")
    (((s.paired f).filter fun (p, _) => p.role.isRoutable).map fun (p, x) => (p.formal x).tokens)
    (standard ["result", "Result"] ++ mark "<" ++ parens [] ++ mark "," ++
      runtime ["NavigationError"] ++ mark ">")
  body : ∃ pushes : List Push, List.Forall₂ (PathPiece.Pushes (s.paired f)) s.trigger.path pushes ∧
    statements c.body =
      ((s.paired f).filterMap fun (p, x) => p.binding? x).map DefaultBinding.tokens ++
        [routeTokens] ++ pushes.map Push.tokens ++ [navigateTokens]

theorem PathPiece.Pushes.ne_nothing {ps : List (Parameter × ScreenParam)} {piece : PathPiece}
    {push : Push} (h : piece.Pushes ps push) : push ≠ .nothing := by
  cases h with
  | text => nofun
  | @value p x type _ _ =>
    rw [Parameter.push.eq_def]
    cases type <;> cases p.role.paramDefault <;> nofun

namespace ScreenFunction.Declares

variable {f : ScreenFunction} {s : Screen} (h : f.Declares s)
include h

theorem expression_ne_nothing :
    ∀ e ∈ (s.registration.method f).call, e ≠ .nothing := by
  rw [h.call_eq, List.forall_mem_map]
  exact fun px _ => px.1.expression_ne_nothing px.2

theorem push_ne_nothing : ∀ push ∈ (s.trigger.method f).pushes, push ≠ .nothing := by
  intro push hpush
  obtain ⟨i, hi, rfl⟩ := List.mem_iff_getElem.1 hpush
  exact (h.forall₂_pushes.get (h.forall₂_pushes.length_eq ▸ hi) hi).ne_nothing

theorem registers : Registers ((s.unit defaultUnitPrefix).expansion f).graphTrait f s where
  signature_eq := by
    rw [← h.handles_eq]
    rfl
  body := by
    refine ⟨separated (s.registration.arguments.map Argument.tokens),
      (s.registration.method f).closureBody f.function,
      separated ((s.registration.method f).call.map CallExpression.tokens), ?_, ?_, ?_, ?_⟩
    · rw [← h.handles_eq]
      exact Expansion.statements_graphTrait _
    · exact expressions_separated (List.forall_mem_map.2 fun a _ => plain_argument a)
    · rw [← h.handles_eq]
      exact GraphMethod.statements_closureBody _ _
    · rw [expressions_separated (List.forall_mem_map.2 fun e he =>
        plain_expression (h.expression_ne_nothing e he)), h.call_eq, List.map_map]
      rfl

theorem navigates : Navigates ((s.unit defaultUnitPrefix).expansion f).navigateTrait f s where
  signature_eq := by
    have hformals : (s.trigger.method f).formals.map NavigateFormal.tokens =
        ((s.paired f).filter fun (p, _) => p.role.isRoutable).map
          fun (p, x) => (p.formal x).tokens := by
      rw [h.formals_eq, List.map_map]
      rfl
    rw [← hformals]
    rfl
  body := by
    refine ⟨(s.trigger.method f).pushes, h.forall₂_pushes, ?_⟩
    rw [← h.bindings_eq]
    exact Expansion.statements_navigateTrait _ h.push_ne_nothing

end ScreenFunction.Declares

/-! ## Annotated functions -/

/-- Whether the parameter of an item is read as the one of a screen's function. -/
def FunctionParam.Spells (p : FunctionParam) (x : ScreenParam) : Prop :=
  ∃ pattern, p.form = .typed pattern x.type ∧ pattern.name = some x.ident

theorem FunctionParam.spells_of_read {p : FunctionParam} {x : ScreenParam} {d : DeclaredParam}
    (h : p.read = .ok (x, d)) : p.Spells x := by
  rw [read] at h
  split at h
  · cases h
  · next pattern type hform =>
    split at h
    · cases h
    · next ident hident =>
      cases hdefaults : p.defaults.mapM Attribute.defaultValue with
      | error fault => rw [hdefaults] at h; cases h
      | ok defaults =>
        rw [hdefaults] at h
        cases h
        exact ⟨pattern, hform, hident⟩

theorem forall₂_spells {ps : List FunctionParam} {params : List (ScreenParam × DeclaredParam)}
    (h : ps.mapM FunctionParam.read = .ok params) :
    List.Forall₂ FunctionParam.Spells ps (params.map (·.1)) := by
  induction ps generalizing params with
  | nil =>
    cases h
    exact .nil
  | cons p ps ih =>
    rw [List.mapM_cons] at h
    cases hp : p.read with
    | error fault => rw [hp] at h; cases h
    | ok first =>
      cases hps : ps.mapM FunctionParam.read with
      | error fault => rw [hp, hps] at h; cases h
      | ok rest =>
        rw [hp, hps] at h
        cases h
        exact .cons (FunctionParam.spells_of_read hp) (ih hps)

theorem exists_of_readAnnotated {arguments item : Tokens} {f : ScreenFunction}
    {declaration : Declaration} (h : readAnnotated arguments item = .ok (f, declaration)) :
    ∃ route function, readRouteName arguments = .ok route ∧
      FunctionItem.read item = .ok function ∧
      ScreenFunction.read route function = .ok (f, declaration) := by
  rw [readAnnotated] at h
  cases hroute : readRouteName arguments with
  | error fault => rw [hroute] at h; cases h
  | ok route =>
    cases hread : FunctionItem.read item with
    | error fault => rw [hroute, hread] at h; cases h
    | ok function =>
      rw [hroute, hread] at h
      exact ⟨route, function, rfl, rfl, h⟩

/-- **An expansion leaves nothing out.** Where an annotated function can be read and classified its
parameters are those of the screen, in order, and each is found under its name. The annotation leads
to three traits, which are written unless the route is a raw word. The first has a formal parameter
for each handle, weakens it and regains it, and calls the function with an expression for each
parameter; the second has a formal parameter for each argument, a binding for each literal, and a
statement for each piece of the path. -/
theorem nothing_left_out {arguments item : Tokens} {f : ScreenFunction}
    {declaration : Declaration} {s : Screen}
    (hread : readAnnotated arguments item = .ok (f, declaration))
    (hclassify : declaration.classify .ofModules = .ok s) :
    ∃ route function e, readRouteName arguments = .ok route ∧
      FunctionItem.read item = .ok function ∧
      annotate arguments item = .expanded function.withoutDefaults e ∧
      (∀ code, (annotate arguments item).tokens? = some code ↔
        ¬ IsRawRoute route ∧ code = function.withoutDefaults.tokens ++
          (e.graphTrait.tokens ++ e.navigateTrait.tokens ++ e.routeTrait.tokens)) ∧
      List.Forall₂ FunctionParam.Spells function.signature.params f.params ∧
      List.Forall₂ (fun p x => p.name = x.name ∧ f.param? p.name = some x) s.params f.params ∧
      Registers e.graphTrait f s ∧ Navigates e.navigateTrait f s := by
  obtain ⟨route, function, hroute, hfunction, hscreen⟩ := exists_of_readAnnotated hread
  have hdeclares := ScreenFunction.declares_of_classify hscreen hclassify
  have hexpansion : function.expansion route = .ok ((s.unit defaultUnitPrefix).expansion f) := by
    rw [FunctionItem.expansion, hscreen]
    simp only [Except.mapError, hclassify, bind, Except.bind]
    rfl
  have hannotate : annotate arguments item =
      .expanded function.withoutDefaults ((s.unit defaultUnitPrefix).expansion f) := by
    simp only [annotate, hroute, hfunction, hexpansion]
  obtain ⟨params, w, hparams, -, rfl, -⟩ := ScreenFunction.exists_of_read hscreen
  refine ⟨route, function, _, hroute, hfunction, hannotate, fun code => ?_, forall₂_spells hparams,
    hdeclares.forall₂_param?, hdeclares.registers, hdeclares.navigates⟩
  rw [hannotate, Annotated.tokens?, Option.ite_none_right_eq_some,
    FunctionItem.isNameable_expansion_iff hexpansion, Option.some.injEq, eq_comm]
  rfl

/-- The function `fn x(nav: NavController, #[default_int(1)] a: i32) {}`. -/
def handledItem : Tokens :=
  [.ident "fn", .ident "x", .group .paren
    ([.ident "nav", .punct ':' false, .ident "NavController", .punct ',' false] ++
      attributeTokens (.ident "default_int" :: parens [.literal "1"]) ++
      [.ident "a", .punct ':' false, .ident "i32"]), .group .brace []]

theorem nothing_left_out_handled :
    ∃ (f : ScreenFunction) (s : Screen) (function : FunctionItem) (e : Expansion),
      s.params.map (fun p => (p.name, p.role)) = [("nav", .handle), ("a", .int (some 1))] ∧
      annotate [.literal "\"x\""] handledItem = .expanded function e ∧
      Registers e.graphTrait f s ∧ Navigates e.navigateTrait f s := by
  have hscreen : ((readAnnotated [.literal "\"x\""] handledItem).toOption.bind fun r =>
      (r.2.classify .ofModules).toOption.map fun s => s.params.map fun p => (p.name, p.role)) =
      some [("nav", .handle), ("a", .int (some 1))] := by decide +kernel
  cases hread : readAnnotated [.literal "\"x\""] handledItem with
  | error fault => rw [hread] at hscreen; cases hscreen
  | ok r =>
    obtain ⟨f, declaration⟩ := r
    cases hclassify : declaration.classify .ofModules with
    | error e =>
      simp only [hread, Except.toOption, Option.bind_some, hclassify] at hscreen
      cases hscreen
    | ok s =>
      simp only [hread, Except.toOption, Option.bind_some, hclassify, Option.map_some,
        Option.some.injEq] at hscreen
      obtain ⟨route, function, e, -, -, hannotate, -, -, -, hregisters, hnavigates⟩ :=
        nothing_left_out hread hclassify
      exact ⟨f, s, function.withoutDefaults, e, hscreen, hannotate, hregisters, hnavigates⟩

end ScreenRoutes
