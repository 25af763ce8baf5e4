import ScreenRoutes.Proofs.Expansion.Traits
import ScreenRoutes.Proofs.TriggerPath

/-!
# Parameters of an annotated function

A function that can be expanded is seen twice, as it is written and as the screen that it is
classified as. The parameters agree in number, order and name, and no name is there twice
(`ScreenFunction.declares_of_classify`), so whatever the screen's code unit names is found in the
function (`Declares.exists_param?`).
-/

namespace ScreenRoutes

/-- Whether a screen is a function's, with its parameters, each by a name of its own. -/
structure ScreenFunction.Declares (f : ScreenFunction) (s : Screen) : Prop where
  function_eq : s.function = unraw f.function
  names_eq : s.params.map (·.name) = f.params.map (·.name)
  names_nodup : (s.params.map (·.name)).Nodup

/-! ## Reading -/

theorem FunctionParam.name_of_read {p : FunctionParam} {q : ScreenParam} {d : DeclaredParam}
    (h : p.read = .ok (q, d)) : d.name = q.name := by
  rw [read] at h
  split at h
  · cases h
  · split at h
    · cases h
    · next ident _ =>
      cases hdefaults : p.defaults.mapM Attribute.defaultValue with
      | error fault => rw [hdefaults] at h; cases h
      | ok defaults =>
        rw [hdefaults] at h
        cases h
        rfl

theorem names_of_mapM_read {ps : List FunctionParam} {params : List (ScreenParam × DeclaredParam)}
    (h : ps.mapM FunctionParam.read = .ok params) :
    params.map (·.2.name) = params.map (·.1.name) := by
  induction ps generalizing params with
  | nil =>
    cases h
    rfl
  | cons p ps ih =>
    rw [List.mapM_cons] at h
    cases hp : p.read with
    | error fault => rw [hp] at h; cases h
    | ok first =>
      cases hps : ps.mapM FunctionParam.read with
      | error fault => rw [hp, hps] at h; cases h
      | ok rest =>
        rw [hp, hps] at h
        cases h
        rw [List.map_cons, List.map_cons, ih hps, FunctionParam.name_of_read hp]

/-! ## Classifying -/

theorem DeclaredParam.name_of_classify {function : String} {table : TypeTable} {p : DeclaredParam}
    {q : Parameter} (h : p.classify function table = .ok q) : q.name = p.name := by
  rw [classify] at h
  split at h
  · cases h
  · split at h
    · cases h
      rfl
    · split at h
      · cases h
      · split at h
        · cases h
        · cases h
          rfl

/-- Parameters that all qualify keep their names, which are new each time. -/
theorem names_of_classifyParams {function : String} {table : TypeTable} {seen : List String}
    {ps : List DeclaredParam} {qs : List Parameter}
    (h : classifyParams function table seen ps = (qs, none)) :
    qs.map (·.name) = ps.map (·.name) ∧ (qs.map (·.name)).Nodup ∧
      ∀ q ∈ qs, q.name ∉ seen := by
  induction ps generalizing seen qs with
  | nil =>
    cases h
    exact ⟨rfl, List.nodup_nil, nofun⟩
  | cons p ps ih =>
    rw [classifyParams] at h
    split at h
    · cases h
    · next hseen =>
      split at h
      · cases h
      · next q hq =>
        obtain ⟨rfl, hnone⟩ := Prod.mk.inj h
        have hrest : classifyParams function table (p.name :: seen) ps = (_, none) :=
          Prod.ext rfl hnone
        obtain ⟨hnames, hnodup, hfresh⟩ := ih hrest
        have hname := DeclaredParam.name_of_classify hq
        refine ⟨by rw [List.map_cons, List.map_cons, hnames, hname], ?_, ?_⟩
        · rw [List.map_cons, List.nodup_cons, hname]
          refine ⟨fun hmem => ?_, hnodup⟩
          obtain ⟨q', hq', heq⟩ := List.mem_map.1 hmem
          exact hfresh q' hq' (heq ▸ List.mem_cons_self)
        · rw [List.forall_mem_cons, hname]
          exact ⟨hseen, fun q' hq' hmem => hfresh q' hq' (List.mem_cons_of_mem _ hmem)⟩

/-- A function that is read and classified declares the screen that comes of it. -/
theorem ScreenFunction.declares_of_classify {route : String} {f : FunctionItem}
    {function : ScreenFunction} {declaration : Declaration} {table : TypeTable} {s : Screen}
    (hread : ScreenFunction.read route f = .ok (function, declaration))
    (hclassify : declaration.classify table = .ok s) : function.Declares s := by
  obtain ⟨params, w, hparams, -, rfl, rfl⟩ := ScreenFunction.exists_of_read hread
  obtain ⟨-, qs, hqs, rfl⟩ := Declaration.exists_of_classify hclassify
  obtain ⟨hnames, hnodup, -⟩ := names_of_classifyParams hqs
  refine ⟨rfl, hnames.trans ?_, hnodup⟩
  simpa [List.map_map] using names_of_mapM_read hparams

/-! ## Looking up -/

theorem ScreenFunction.name_of_param? {f : ScreenFunction} {name : String} {x : ScreenParam}
    (h : f.param? name = some x) : x.name = name := by
  simpa using List.find?_some h

theorem Trigger.unraw_of_mem_namedParams {f : ScreenFunction} {t : Trigger} {q : TriggerParam}
    {x : ScreenParam} (h : (q, x) ∈ t.namedParams f) : unraw x.ident = q.name := by
  obtain ⟨q', -, hx⟩ := List.mem_filterMap.1 h
  obtain ⟨x', hx', heq⟩ := Option.map_eq_some_iff.1 hx
  obtain ⟨rfl, rfl⟩ := Prod.mk.inj heq
  exact ScreenFunction.name_of_param? hx'

namespace ScreenFunction.Declares

variable {f : ScreenFunction} {s : Screen} (h : f.Declares s)
include h

/-- Each parameter of the screen is found in the function. -/
theorem exists_param? {p : Parameter} (hp : p ∈ s.params) :
    ∃ x, f.param? p.name = some x ∧ x.name = p.name := by
  have hmem : p.name ∈ f.params.map (·.name) := h.names_eq ▸ List.mem_map_of_mem hp
  obtain ⟨x, hx, hname⟩ := List.mem_map.1 hmem
  have hsome : (f.param? p.name).isSome := by
    rw [param?, List.find?_isSome]
    exact ⟨x, hx, beq_iff_eq.2 hname⟩
  obtain ⟨x', hx'⟩ := Option.isSome_iff_exists.1 hsome
  exact ⟨x', hx', name_of_param? hx'⟩

/-! ### Handles -/

/-- The identifiers found for parameters of the screen are those of the parameters' names. -/
theorem map_unraw_idents {ps : List Parameter} (hps : ps ⊆ s.params) :
    (ps.filterMap fun p => (f.param? p.name).map (·.ident)).map unraw = ps.map (·.name) := by
  induction ps with
  | nil => rfl
  | cons p ps ih =>
    rw [List.cons_subset] at hps
    obtain ⟨x, hx, hname⟩ := h.exists_param? hps.1
    rw [List.filterMap_cons_some (by rw [hx, Option.map_some]), List.map_cons, List.map_cons,
      ih hps.2, ← hname]
    rfl

theorem map_unraw_handles :
    (s.registration.method f).handles.map unraw = s.handles.map (·.name) := by
  have hhandles : (s.registration.method f).handles =
      s.handles.filterMap fun p => (f.param? p.name).map (·.ident) := by
    rw [Registration.method, Screen.registration, List.filterMap_map]
    rfl
  rw [hhandles]
  exact h.map_unraw_idents (List.filter_subset_self _)

/-! ### Parameters of the trigger -/

/-- Each parameter of the trigger is found in the function. -/
theorem map_fst_namedParams : (s.trigger.namedParams f).map (·.1) = s.trigger.params := by
  have hsome : s.trigger.params.filterMap some = s.trigger.params := List.filterMap_some
  rw [Trigger.namedParams, List.map_filterMap]
  refine Eq.trans (List.filterMap_congr fun q hq => ?_) hsome
  obtain ⟨p, hp, hpq⟩ := Screen.mem_trigger_params.1 hq
  obtain ⟨x, hx, -⟩ := h.exists_param? hp
  rw [(Parameter.triggerParam?_eq_some_iff.1 hpq).2.1, hx]
  rfl

theorem namedParams_names_nodup : ((s.trigger.namedParams f).map (·.1.name)).Nodup := by
  have hnames : (s.trigger.namedParams f).map (·.1.name) = s.routable.map (·.name) := by
    rw [← s.trigger_params_names, ← h.map_fst_namedParams, List.map_map]
    rfl
  rw [hnames]
  exact Screen.filter_names_nodup h.names_nodup _

theorem find?_namedParams_eq (name : String) :
    ((s.trigger.namedParams f).find? (fun (q, _) => q.name == name)).map (·.1) =
      s.trigger.params.find? (·.name == name) := by
  rw [← h.map_fst_namedParams, List.find?_map]
  rfl

/-- A parameter that the trigger finds under a name is found in the function. -/
theorem find?_namedParams {name : String} {q : TriggerParam}
    (hq : s.trigger.params.find? (·.name == name) = some q) :
    ∃ x, (q, x) ∈ s.trigger.namedParams f ∧
      (s.trigger.namedParams f).find? (fun (q, _) => q.name == name) = some (q, x) := by
  rw [← h.find?_namedParams_eq] at hq
  obtain ⟨⟨q', x⟩, hfind, rfl⟩ := Option.map_eq_some_iff.1 hq
  exact ⟨x, List.mem_of_find?_eq_some hfind, hfind⟩

theorem find?_namedParams_eq_none {name : String}
    (hq : s.trigger.params.find? (·.name == name) = none) :
    (s.trigger.namedParams f).find? (fun (q, _) => q.name == name) = none := by
  rw [← h.find?_namedParams_eq] at hq
  exact Option.map_eq_none_iff.1 hq

end ScreenFunction.Declares

end ScreenRoutes
