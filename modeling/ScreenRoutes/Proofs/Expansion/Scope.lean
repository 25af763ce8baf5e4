import ScreenRoutes.Proofs.Expansion.Parameters

/-!
# Names in generated code

The bodies of the generated methods bind names of their own, `__route` and `__entry`, next to those
of the function's parameters, and nothing keeps the two apart. What a name stands for is settled by
the last binding in front of it, so the statements of a body are followed one by one (`Scope`). The
code unit says what each of them should speak of. They do exactly where no argument is called
`__route`, no handle is called `__entry`, and the function is called neither `__entry` nor as one of
its own handles (`names_stand_iff`).
-/

namespace ScreenRoutes

/-! ## Scopes -/

/-- What a name in generated code stands for: what a caller gives for a formal parameter, that or a
default, a handle that was weakened or regained, the route under construction, the entry shown, or
whatever the surroundings declare. -/
inductive Referent where
  | argument (name : String)
  | orDefault (r : Referent) (v : Value)
  | weakened (r : Referent)
  | regained (r : Referent)
  | route
  | entry
  | surroundings
  deriving DecidableEq, Repr

/-- Names with what they stand for, those bound last in front. -/
abbrev Scope := List (String × Referent)

namespace Scope

/-- What an identifier stands for; a raw one stands for the same as a plain one. -/
def referent (scope : Scope) (ident : String) : Referent :=
  (scope.lookup (unraw ident)).getD .surroundings

def bind (scope : Scope) (ident : String) (r : Referent) : Scope :=
  (unraw ident, r) :: scope

/-- The scope inside a method with the given formal parameters. -/
def ofFormals : List String → Scope
  | [] => []
  | ident :: idents => bind (ofFormals idents) ident (.argument (unraw ident))

/-- The scope behind statements that bind identifiers again, each to something made of what it stood
for. -/
def rebind : Scope → List (String × (Referent → Referent)) → Scope
  | scope, [] => scope
  | scope, (ident, change) :: changes =>
    rebind (scope.bind ident (change (scope.referent ident))) changes

theorem referent_congr (scope : Scope) {ident other : String} (h : unraw ident = unraw other) :
    scope.referent ident = scope.referent other := by
  rw [referent, h, referent]

theorem referent_bind (scope : Scope) (ident other : String) (r : Referent) :
    (scope.bind ident r).referent other =
      if unraw other = unraw ident then r else scope.referent other := by
  rw [bind, referent, List.lookup_cons]
  by_cases h : unraw other = unraw ident
  · simp [h]
  · rw [beq_false_of_ne h, if_neg h, referent]

theorem referent_ofFormals (idents : List String) (ident : String) :
    (ofFormals idents).referent ident =
      if unraw ident ∈ idents.map unraw then .argument (unraw ident) else .surroundings := by
  induction idents with
  | nil => rfl
  | cons first idents ih =>
    rw [ofFormals, referent_bind, ih, List.map_cons]
    by_cases h : unraw ident = unraw first
    · simp [h]
    · simp [h]

theorem referent_rebind_of_not_mem {changes : List (String × (Referent → Referent))}
    {ident : String} (h : unraw ident ∉ changes.map fun c => unraw c.1) (scope : Scope) :
    (scope.rebind changes).referent ident = scope.referent ident := by
  induction changes generalizing scope with
  | nil => rfl
  | cons c changes ih =>
    rw [List.map_cons, List.mem_cons, not_or] at h
    rw [rebind, ih h.2, referent_bind, if_neg h.1]

/-- An identifier that is bound again once stands for what was made of it. -/
theorem referent_rebind_of_mem {changes : List (String × (Referent → Referent))}
    (hnodup : (changes.map fun c => unraw c.1).Nodup) {c : String × (Referent → Referent)}
    (hc : c ∈ changes) {ident : String} (hident : unraw ident = unraw c.1) (scope : Scope) :
    (scope.rebind changes).referent ident = c.2 (scope.referent ident) := by
  induction changes generalizing scope with
  | nil => cases hc
  | cons first changes ih =>
    rw [List.map_cons, List.nodup_cons] at hnodup
    rw [rebind]
    obtain rfl | hmem := List.mem_cons.1 hc
    · rw [referent_rebind_of_not_mem (hident ▸ hnodup.1), referent_bind, if_pos hident,
        scope.referent_congr hident]
    · have hne : unraw ident ≠ unraw first.1 := by
        intro heq
        have hfirst : unraw c.1 ∈ changes.map fun c => unraw c.1 := List.mem_map_of_mem hmem
        rw [← hident, heq] at hfirst
        exact hnodup.1 hfirst
      rw [ih hnodup.2 hmem, referent_bind, if_neg hne]

end Scope

/-! ## The body of a trigger -/

/-- What a statement puts behind the route. -/
inductive Appended where
  | nothing
  | text (s : String)
  | encoded (r : Referent)
  | encodedIfPresent (r : Referent)
  | printed (r : Referent)
  deriving DecidableEq, Repr

/-- What the statement puts behind the route, with the names in scope. -/
def Push.appended (scope : Scope) : Push → Appended
  | .nothing => .nothing
  | .text s => .text s
  | .encoded ident => .encoded (scope.referent ident)
  | .encodedIfPresent ident => .encodedIfPresent (scope.referent ident)
  | .printed ident => .printed (scope.referent ident)

/-- What binding a default makes of the identifier's referent. -/
def DefaultBinding.change (b : DefaultBinding) : String × (Referent → Referent) :=
  (b.ident, (.orDefault · b.value))

/-- The scope of the statements that build the route: the formal parameters, some of them bound
again to themselves or a default, and then the route. -/
def NavigateMethod.scope (m : NavigateMethod) : Scope :=
  ((Scope.ofFormals (m.formals.map (·.ident))).rebind (m.bindings.map (·.change))).bind
    "__route" .route

/-- What a parameter's name should stand for when the route is built. -/
def TriggerParam.meant (p : TriggerParam) : Referent :=
  match p.default with
  | .literal v => .orDefault (.argument p.name) v
  | .required | .absent => .argument p.name

/-- What a value of a type puts behind the route. -/
def Appended.ofValue (type : ArgType) (default : ParamDefault) (r : Referent) : Appended :=
  match type, default with
  | .string, .absent => .encodedIfPresent r
  | .string, _ => .encoded r
  | _, _ => .printed r

/-- What a piece of the path should put behind the route. -/
def Trigger.meant (t : Trigger) : PathPiece → Appended
  | .text s => .text s
  | .value name type _ =>
    match t.params.find? (·.name == name) with
    | some p => .ofValue type p.default p.meant
    | none => .nothing

/-- Whether the method builds the route that the trigger describes. -/
def NavigateMethod.Follows (m : NavigateMethod) (t : Trigger) : Prop :=
  m.pushes.map (·.appended m.scope) = t.path.map t.meant

instance (m : NavigateMethod) (t : Trigger) : Decidable (m.Follows t) :=
  inferInstanceAs (Decidable (m.pushes.map (·.appended m.scope) = t.path.map t.meant))

theorem Appended.ofValue_inj {type : ArgType} {default : ParamDefault} {r r' : Referent} :
    Appended.ofValue type default r = Appended.ofValue type default r' ↔ r = r' := by
  cases type <;> cases default <;> simp [Appended.ofValue]

theorem TriggerParam.meant_ne_route (p : TriggerParam) : p.meant ≠ .route := by
  rw [meant]
  split <;> simp

/-! ## The body of a registration -/

/-- What stands in the place of an argument when the screen's function is called. -/
inductive Passed where
  | nothing
  | handle (r : Referent)
  | value (r : Referent) (name : String) (type : ArgType)
  deriving DecidableEq, Repr

/-- What the expression stands for, with the names in scope. -/
def CallExpression.passed (scope : Scope) : CallExpression → Passed
  | .nothing => .nothing
  | .handle ident _ => .handle (scope.referent ident)
  | .extract name type _ => .value (scope.referent "__entry") name type

/-- The scope of the call: handles, weakened one by one, around a closure over the entry, in which
they are regained one by one. -/
def GraphMethod.scope (g : GraphMethod) : Scope :=
  (((Scope.ofFormals g.handles).rebind (g.handles.map fun h => (h, .weakened))).bind
    "__entry" .entry).rebind (g.handles.map fun h => (h, .regained))

/-- What an argument of the call should stand for. -/
def CallArgument.meant : CallArgument → Passed
  | .handle name => .handle (.regained (.weakened (.argument name)))
  | .extract name type _ => .value .entry name type

/-- Whether the method calls the screen's function with what the registration describes. -/
def GraphMethod.Follows (g : GraphMethod) (r : Registration) : Prop :=
  g.call.map (·.passed g.scope) = r.screen.arguments.map (·.meant)

instance (g : GraphMethod) (r : Registration) : Decidable (g.Follows r) :=
  inferInstanceAs (Decidable (g.call.map (·.passed g.scope) = r.screen.arguments.map (·.meant)))

/-- What an identifier stands for where the screen's function is called. -/
theorem GraphMethod.referent_scope {g : GraphMethod} (hnodup : (g.handles.map unraw).Nodup)
    (ident : String) :
    g.scope.referent ident =
      if unraw ident ∈ g.handles.map unraw then
        if unraw ident = "__entry" then .regained .entry
        else .regained (.weakened (.argument (unraw ident)))
      else if unraw ident = "__entry" then .entry else .surroundings := by
  have hentry : unraw "__entry" = "__entry" := by decide
  have hchanges (change : Referent → Referent) :
      ((g.handles.map fun h => (h, change)).map fun c => unraw c.1) = g.handles.map unraw := by
    rw [List.map_map]
    rfl
  rw [scope]
  split
  · next hmem =>
    obtain ⟨h, hh, hident⟩ := List.mem_map.1 hmem
    have hwrapped (change : Referent → Referent) (scope : Scope) :
        (scope.rebind (g.handles.map fun h => (h, change))).referent ident =
          change (scope.referent ident) := by
      refine Scope.referent_rebind_of_mem (hchanges change ▸ hnodup) (c := (h, change)) ?_
        hident.symm scope
      exact List.mem_map_of_mem hh
    rw [hwrapped, Scope.referent_bind, hentry, hwrapped, Scope.referent_ofFormals, if_pos hmem]
    split <;> rfl
  · next hmem =>
    have hkept (change : Referent → Referent) (scope : Scope) :
        (scope.rebind (g.handles.map fun h => (h, change))).referent ident =
          scope.referent ident :=
      Scope.referent_rebind_of_not_mem ((hchanges change).symm ▸ hmem) scope
    rw [hkept, Scope.referent_bind, hentry, hkept, Scope.referent_ofFormals, if_neg hmem]

/-! ## What the names of a screen's code stand for -/

/-- The statement for a value puts behind the route what its identifier stands for. -/
theorem PathPiece.appended_push {params : List (TriggerParam × ScreenParam)} {scope : Scope}
    {name : String} {type : ArgType} {nullable : Bool} {q : TriggerParam} {x : ScreenParam}
    (h : params.find? (fun (p, _) => p.name == name) = some (q, x)) :
    ((PathPiece.value name type nullable).push params).appended scope =
      .ofValue type q.default (scope.referent x.ident) := by
  simp only [push, h]
  cases type <;> cases q.default <;> rfl

def defaultBindings (named : List (TriggerParam × ScreenParam)) : List DefaultBinding :=
  named.filterMap fun (q, x) => q.default.literal?.map fun v => ⟨x.ident, v⟩

section

variable {named : List (TriggerParam × ScreenParam)}
  (hnames : ∀ x ∈ named, unraw x.2.ident = x.1.name) (hnodup : (named.map (·.1.name)).Nodup)
include hnames hnodup

theorem defaultBindings_nodup :
    (((defaultBindings named).map (·.change)).map fun c => unraw c.1).Nodup := by
  rw [List.map_map, List.Nodup, List.pairwise_map, defaultBindings, List.pairwise_filterMap]
  refine List.Pairwise.imp_of_mem ?_ (List.pairwise_map.1 hnodup)
  rintro ⟨q, x⟩ ⟨q', x'⟩ hx hx' hne b hb b' hb'
  obtain ⟨v, -, rfl⟩ := Option.map_eq_some_iff.1 hb
  obtain ⟨v', -, rfl⟩ := Option.map_eq_some_iff.1 hb'
  show unraw x.ident ≠ unraw x'.ident
  rw [hnames _ hx, hnames _ hx']
  exact hne

/-- Once defaults are bound, each parameter stands for what it should. -/
theorem referent_defaultBindings {q : TriggerParam} {x : ScreenParam} (hx : (q, x) ∈ named) :
    ((Scope.ofFormals (named.map (·.2.ident))).rebind
      ((defaultBindings named).map (·.change))).referent x.ident = q.meant := by
  have hformal : (Scope.ofFormals (named.map (·.2.ident))).referent x.ident =
      .argument q.name := by
    rw [Scope.referent_ofFormals, if_pos, hnames _ hx]
    exact List.mem_map_of_mem (List.mem_map_of_mem (f := (·.2.ident)) hx)
  rw [TriggerParam.meant]
  cases hdefault : q.default.literal? with
  | some v =>
    have hmem : (⟨x.ident, v⟩ : DefaultBinding) ∈ defaultBindings named :=
      List.mem_filterMap.2 ⟨(q, x), hx, by simp only [hdefault, Option.map_some]⟩
    have hchange : (x.ident, (.orDefault · v)) ∈ (defaultBindings named).map (·.change) :=
      List.mem_map_of_mem hmem
    rw [Scope.referent_rebind_of_mem (defaultBindings_nodup hnames hnodup) hchange rfl, hformal]
    cases hq : q.default with
    | required | absent => rw [hq] at hdefault; cases hdefault
    | literal w =>
      rw [hq] at hdefault
      obtain rfl := Option.some.inj hdefault
      rfl
  | none =>
    rw [Scope.referent_rebind_of_not_mem, hformal]
    · cases hq : q.default with
      | required | absent => rfl
      | literal w => rw [hq] at hdefault; cases hdefault
    · -- a binding of the same name would be that of the same parameter
      intro hmem
      simp only [List.map_map, List.mem_map, defaultBindings, List.mem_filterMap] at hmem
      obtain ⟨b, ⟨⟨q', x'⟩, hx', hb⟩, hident⟩ := hmem
      obtain ⟨v, hv, rfl⟩ := Option.map_eq_some_iff.1 hb
      have hname : q'.name = q.name := by
        rw [← hnames _ hx', ← hnames _ hx]
        exact hident
      obtain ⟨rfl, -⟩ := Prod.mk.inj (List.inj_on_of_nodup_map hnodup hx' hx hname)
      rw [hdefault] at hv
      cases hv

end

namespace ScreenFunction.Declares

variable {f : ScreenFunction} {s : Screen} (h : f.Declares s)
include h

/-- When the route is built a parameter stands for what it should, unless the route has taken its
name. -/
theorem referent_navigate {q : TriggerParam} {x : ScreenParam}
    (hx : (q, x) ∈ s.trigger.namedParams f) :
    (s.trigger.method f).scope.referent x.ident =
      if q.name = "__route" then .route else q.meant := by
  have hscope : (s.trigger.method f).scope =
      ((Scope.ofFormals ((s.trigger.namedParams f).map (·.2.ident))).rebind
        ((defaultBindings (s.trigger.namedParams f)).map (·.change))).bind "__route" .route := by
    rw [NavigateMethod.scope, Trigger.method, List.map_map]
    rfl
  have hroute : unraw "__route" = "__route" := by decide
  rw [hscope, Scope.referent_bind, hroute, Trigger.unraw_of_mem_namedParams hx,
    referent_defaultBindings (fun _ hx => Trigger.unraw_of_mem_namedParams hx)
      h.namedParams_names_nodup hx]

/-- **A trigger's method builds the route that it should, unless an argument has the route's
name.** -/
theorem follows_trigger_iff :
    (s.trigger.method f).Follows s.trigger ↔ "__route" ∉ s.routable.map (·.name) := by
  have hfollows : (s.trigger.method f).Follows s.trigger ↔ ∀ piece ∈ s.trigger.path,
      (piece.push (s.trigger.namedParams f)).appended (s.trigger.method f).scope =
        s.trigger.meant piece := by
    rw [NavigateMethod.Follows, ← List.map_inj_left, Trigger.method, List.map_map]
    rfl
  rw [hfollows]
  constructor
  · rintro hall hmem
    obtain ⟨p, hp, hname⟩ := List.mem_map.1 hmem
    obtain ⟨piece, hpiece, type, -, rfl⟩ := exists_isValueOf (Screen.mem_routable.1 hp).2
    obtain ⟨q, hq⟩ := p.exists_triggerParam? (Screen.mem_routable.1 hp).2
    have hfind := Screen.find?_trigger_params h.names_nodup hp
    obtain ⟨x, hx, hnamed⟩ := h.find?_namedParams (hfind.trans hq)
    have hpath := s.mem_trigger_path hp hpiece
    have heq := hall _ hpath
    rw [PathPiece.appended_push hnamed, h.referent_navigate hx, Trigger.meant, hfind, hq] at heq
    have hqname : q.name = "__route" := (Parameter.triggerParam?_eq_some_iff.1 hq).2.1.trans hname
    rw [if_pos hqname, Appended.ofValue_inj] at heq
    exact q.meant_ne_route heq.symm
  · intro hmem piece hpiece
    cases piece with
    | text t => rfl
    | value name type nullable =>
      rw [Trigger.meant]
      cases hfind : s.trigger.params.find? (·.name == name) with
      | none =>
        have hnone := h.find?_namedParams_eq_none hfind
        simp only [PathPiece.push, hnone, Push.appended]
      | some q =>
        obtain ⟨x, hx, hnamed⟩ := h.find?_namedParams hfind
        have hne : q.name ≠ "__route" := by
          rintro hname
          rw [← s.trigger_params_names] at hmem
          exact hmem (hname ▸ List.mem_map_of_mem (List.mem_of_find?_eq_some hfind))
        rw [PathPiece.appended_push hnamed, h.referent_navigate hx, if_neg hne]

/-- What an identifier stands for where the screen's function is called. -/
theorem referent_registration (ident : String) :
    (s.registration.method f).scope.referent ident =
      if unraw ident ∈ s.handles.map (·.name) then
        if unraw ident = "__entry" then .regained .entry
        else .regained (.weakened (.argument (unraw ident)))
      else if unraw ident = "__entry" then .entry else .surroundings := by
  have hnodup : ((s.registration.method f).handles.map unraw).Nodup := by
    rw [h.map_unraw_handles]
    exact Screen.filter_names_nodup h.names_nodup _
  rw [GraphMethod.referent_scope hnodup, h.map_unraw_handles]

/-- **A registration's method passes on what it should, unless a handle has the entry's name.** -/
theorem follows_registration_iff :
    (s.registration.method f).Follows s.registration ↔ "__entry" ∉ s.handles.map (·.name) := by
  have hentry : unraw "__entry" = "__entry" := by decide
  have hfollows : (s.registration.method f).Follows s.registration ↔ ∀ p ∈ s.params,
      (p.callArgument.expression f).passed (s.registration.method f).scope =
        p.callArgument.meant := by
    rw [GraphMethod.Follows, Registration.method, Screen.registration]
    simp only [List.map_map, List.map_inj_left, Function.comp]
  have hhandle {p : Parameter} (hp : p ∈ s.handles) : p.callArgument = .handle p.name := by
    have hrole : p.role.type? = none := by simpa [Role.isRoutable] using (List.mem_filter.1 hp).2
    rw [Parameter.callArgument, hrole]
  rw [hfollows]
  constructor
  · rintro hall hmem
    obtain ⟨p, hp, hname⟩ := List.mem_map.1 hmem
    obtain ⟨x, hx, hxname⟩ := h.exists_param? (List.mem_filter.1 hp).1
    have heq := hall p (List.mem_filter.1 hp).1
    have hident : unraw x.ident = "__entry" := hxname.trans hname
    rw [hhandle hp] at heq
    simp only [CallArgument.expression, hx, CallExpression.passed, h.referent_registration, hident,
      if_pos hmem, CallArgument.meant] at heq
    cases heq
  · intro hmem p hp
    cases htype : p.role.type? with
    | none =>
      have hhandles : p ∈ s.handles := List.mem_filter.2 ⟨hp, by simp [Role.isRoutable, htype]⟩
      obtain ⟨x, hx, hxname⟩ := h.exists_param? hp
      have hident : unraw x.ident = p.name := hxname
      have hne : p.name ≠ "__entry" := fun hname =>
        hmem (hname ▸ List.mem_map_of_mem (f := (·.name)) hhandles)
      rw [hhandle hhandles]
      simp only [CallArgument.expression, hx, CallExpression.passed, h.referent_registration,
        hident, if_pos (List.mem_map_of_mem (f := (·.name)) hhandles), if_neg hne,
        CallArgument.meant]
    | some type =>
      rw [Parameter.callArgument, htype]
      simp only [CallArgument.expression, CallExpression.passed, h.referent_registration, hentry,
        if_neg hmem, if_true, CallArgument.meant]

/-- The function that is called is the one declared around the code, unless a handle or the entry
has its name. -/
theorem referent_function_iff :
    (s.registration.method f).scope.referent f.function = .surroundings ↔
      s.function ∉ "__entry" :: s.handles.map (·.name) := by
  rw [h.referent_registration, ← h.function_eq, List.mem_cons, not_or]
  split
  · next hmem =>
    refine iff_of_false ?_ fun hfree => hfree.2 hmem
    split <;> simp
  · next hmem =>
    split
    · next hentry => exact iff_of_false (by simp) fun hfree => hfree.1 hentry
    · next hentry => exact iff_of_true rfl ⟨hentry, hmem⟩

end ScreenFunction.Declares

/-! ## Annotated functions -/

def Annotated.isExpanded : Annotated → Bool
  | .expanded .. => true
  | .unreadable .. | .noFunction _ | .rejected .. => false

theorem expansion_of_annotate {arguments item : Tokens} {function : FunctionItem} {e : Expansion}
    (h : annotate arguments item = .expanded function e) :
    ∃ route f, readRouteName arguments = .ok route ∧ FunctionItem.read item = .ok f ∧
      f.expansion route = .ok e := by
  rw [annotate] at h
  split at h
  · cases h
  · next route hroute =>
    split at h
    · cases h
    · next f hread =>
      split at h
      · cases h
      · next e' hexpansion =>
        cases h
        exact ⟨route, f, hroute, hread, hexpansion⟩

/-- **Where the names in generated code stand for what the code unit means.** An annotated function
that is expanded is a screen whose names are as they were written. The route that the trigger's
method builds is made of what its caller gave exactly where no argument is called `__route`. The
closure that shows the screen passes on the handles and the entry exactly where no handle is called
`__entry`. And it calls the annotated function exactly where that is called neither `__entry` nor as
one of the handles. -/
theorem names_stand_iff {arguments item : Tokens} {function : FunctionItem} {e : Expansion}
    (h : annotate arguments item = .expanded function e) :
    ∃ route f written declaration s, readRouteName arguments = .ok route ∧
      FunctionItem.read item = .ok f ∧
      ScreenFunction.read route f = .ok (written, declaration) ∧
      declaration.classify .ofModules = .ok s ∧ s.function = unraw e.function ∧
      s.params.map (·.name) = written.params.map (·.name) ∧
      (e.navigate.Follows (s.unit defaultUnitPrefix).trigger ↔
        "__route" ∉ s.routable.map (·.name)) ∧
      (e.graph.Follows (s.unit defaultUnitPrefix).registration ↔
        "__entry" ∉ s.handles.map (·.name)) ∧
      (e.graph.scope.referent e.function = .surroundings ↔
        s.function ∉ "__entry" :: s.handles.map (·.name)) := by
  obtain ⟨route, f, hroute, hread, hexpansion⟩ := expansion_of_annotate h
  obtain ⟨written, declaration, s, hwritten, hclassify, rfl⟩ :=
    FunctionItem.exists_of_expansion hexpansion
  have hdeclares := ScreenFunction.declares_of_classify hwritten hclassify
  exact ⟨route, f, written, declaration, s, hroute, hread, hwritten, hclassify,
    hdeclares.function_eq, hdeclares.names_eq, hdeclares.follows_trigger_iff,
    hdeclares.follows_registration_iff, hdeclares.referent_function_iff⟩

/-- A function without a body's content, with formal parameters of the given names and types. -/
def plainItem (function : String) (formals : List (String × String)) : Tokens :=
  [.ident "fn", .ident function,
    .group .paren (formals.flatMap fun (ident, type) =>
      [.ident ident, .punct ':' false, .ident type, .punct ',' false]),
    .group .brace []]

/-- In `fn x(__route: String, nav: NavController) {}` the route takes the argument's name, and the
handle is passed on as it should be. -/
theorem names_stand_iff_route :
    ∃ (function : FunctionItem) (e : Expansion) (s : Screen), annotate [.literal "\"x\""]
        (plainItem "x" [("__route", "String"), ("nav", "NavController")]) = .expanded function e ∧
      s.params.map Parameter.name = ["__route", "nav"] ∧
      ¬ e.navigate.Follows (s.unit defaultUnitPrefix).trigger ∧
      e.graph.Follows (s.unit defaultUnitPrefix).registration := by
  have hroute : readRouteName [.literal "\"x\""] = .ok "x" := by decide +kernel
  have hscreen : ((FunctionItem.read
      (plainItem "x" [("__route", "String"), ("nav", "NavController")])).toOption.bind fun f =>
        (ScreenFunction.read "x" f).toOption.bind fun r =>
          (r.2.classify .ofModules).toOption.map fun s =>
            (s.params.map (·.name), s.routable.map (·.name), s.handles.map (·.name))) =
      some (["__route", "nav"], ["__route"], ["nav"]) := by decide +kernel
  have hexpanded : (annotate [.literal "\"x\""]
      (plainItem "x" [("__route", "String"), ("nav", "NavController")])).isExpanded := by
    decide +kernel
  cases h : annotate [.literal "\"x\""]
      (plainItem "x" [("__route", "String"), ("nav", "NavController")]) with
  | unreadable | noFunction | rejected => rw [h] at hexpanded; cases hexpanded
  | expanded function e =>
    obtain ⟨route, f, written, declaration, s, hroute', hread, hwritten, hclassify, -, -,
      hnavigate, hgraph, -⟩ := names_stand_iff h
    obtain rfl := Except.ok.inj (hroute.symm.trans hroute')
    simp only [hread, hwritten, hclassify, Except.toOption, Option.bind_some, Option.map_some,
      Option.some.injEq, Prod.mk.injEq] at hscreen
    obtain ⟨hparams, hroutable, hhandles⟩ := hscreen
    refine ⟨function, e, s, rfl, hparams, fun hfollows => ?_, ?_⟩
    · exact hnavigate.1 hfollows (hroutable ▸ List.mem_cons_self)
    · exact hgraph.2 (hhandles ▸ by decide)

/-- Three functions that are expanded, though a name in their code is taken: the route is put behind
itself, the entry is passed on as a handle, and a handle is called in the place of the function. -/
theorem names_taken :
    let expansion? (item : Tokens) : Option Expansion :=
      match annotate [.literal "\"x\""] item with
      | .expanded _ e => some e
      | _ => none
    (expansion? (plainItem "x" [("__route", "String")])).map
        (fun e => (e.isNameable, e.navigate.pushes.map (·.appended e.navigate.scope))) =
      some (true, [.text "x/", .encoded .route]) ∧
    (expansion? (plainItem "x" [("__entry", "NavController")])).map
        (fun e => (e.isNameable, e.graph.call.map (·.passed e.graph.scope))) =
      some (true, [.handle (.regained .entry)]) ∧
    (expansion? (plainItem "nav" [("nav", "NavController")])).map
        (fun e => (e.isNameable, e.graph.scope.referent e.function)) =
      some (true, .regained (.weakened (.argument "nav"))) := by
  decide +kernel

end ScreenRoutes
