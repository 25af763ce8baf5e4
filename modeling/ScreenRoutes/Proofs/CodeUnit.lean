import ScreenRoutes.Proofs.Arrival
import ScreenRoutes.Proofs.TriggerPath

/-!
# The members of a code unit

Registration, trigger and path of a unit are made from the screen's parameters one by one, each by a
pass of its own. They fit together (`members_fit`): every parameter is a handle, a required argument
or an optional one and nothing else, the registration describes exactly the arguments that the
trigger takes, and the screen's function is called with the handles and these arguments as they were
declared.
-/

namespace ScreenRoutes

/-! ## Passes over a list -/

/-- Two passes that leave nothing out go side by side. -/
theorem forall₂_filterMap {α β γ : Type} {f : α → Option β} {g : α → Option γ} {R : β → γ → Prop}
    {l : List α} (h : ∀ x ∈ l, ∃ y z, f x = some y ∧ g x = some z ∧ R y z) :
    List.Forall₂ R (l.filterMap f) (l.filterMap g) := by
  induction l with
  | nil => exact .nil
  | cons x l ih =>
    rw [List.forall_mem_cons] at h
    obtain ⟨⟨y, z, hy, hz, hyz⟩, hrest⟩ := h
    rw [List.filterMap_cons_some hy, List.filterMap_cons_some hz]
    exact .cons hyz (ih hrest)

/-! ## Partitions -/

namespace Screen

variable {s : Screen} {p : Parameter}

theorem mem_handles : p ∈ s.handles ↔ p ∈ s.params ∧ p.role.isRoutable = false := by
  rw [handles, List.mem_filter, Bool.not_eq_true']

/-- A route carries the required arguments and the optional ones, in another order. -/
theorem carried_perm (s : Screen) : s.carried.Perm s.routable := by
  have hrequired : s.required = s.routable.filter (·.role.isRequired) := by
    rw [routable, List.filter_filter]
    refine List.filter_congr fun p _ => ?_
    cases h : p.role.isRequired <;> simp [p.role.isRoutable_of_isRequired, h]
  have hoptional : s.optional = s.routable.filter fun p => !p.role.isRequired := by
    rw [routable, List.filter_filter]
    refine List.filter_congr fun p _ => ?_
    rw [Role.isRequired]
    cases hr : p.role.isRoutable <;> simp [Role.isOptional, hr]
  rw [carried, hrequired, hoptional]
  exact List.filter_append_perm _ _

theorem partition_perm (s : Screen) : (s.handles ++ (s.required ++ s.optional)).Perm s.params := by
  have hparams : (s.handles ++ s.routable).Perm s.params := by
    refine List.perm_append_comm.trans ?_
    exact List.filter_append_perm _ _
  exact (s.carried_perm.append_left s.handles).trans hparams

/-- Each parameter is in one part only. -/
theorem mem_one_part (hp : p ∈ s.params) :
    p ∈ s.handles ∧ p ∉ s.required ∧ p ∉ s.optional ∨
      p ∉ s.handles ∧ p ∈ s.required ∧ p ∉ s.optional ∨
      p ∉ s.handles ∧ p ∉ s.required ∧ p ∈ s.optional := by
  rw [mem_handles, mem_required, mem_optional]
  simp only [hp, true_and]
  rw [Role.isRequired]
  cases hr : p.role.isRoutable <;> cases ho : p.role.isOptional <;> simp_all [Role.isOptional]

end Screen

/-! ## What the members make of a parameter -/

structure Argument.Describes (a : Argument) (p : Parameter) : Prop where
  name_eq : a.name = p.name
  type_eq : p.role.type? = some a.type
  nullable_eq : a.nullable = p.role.isNullable
  default_eq : a.default = p.role.default?

/-- Whether the trigger's parameter stands for the screen's, and is insisted on exactly where that
is one of the required arguments. -/
structure TriggerParam.StandsFor (q : TriggerParam) (s : Screen) (p : Parameter) : Prop where
  name_eq : q.name = p.name
  source_eq : q.source = p.source
  type_eq : p.role.type? = some q.type
  nullable_eq : q.nullable = p.role.isNullable
  required_iff : q.default = .required ↔ p ∈ s.required

/-- Whether an argument of the registration and a parameter of the trigger are alike, the literal of
the one being that of the other. -/
structure Argument.Agrees (a : Argument) (q : TriggerParam) : Prop where
  name_eq : a.name = q.name
  type_eq : a.type = q.type
  nullable_eq : a.nullable = q.nullable
  literal_iff : ∀ v, a.default = some v ↔ q.default = .literal v
  absent_iff : q.default = .absent ↔ a.nullable = true ∧ a.default = none

/-- What the screen's function is called with for the parameter. -/
inductive Parameter.PassedAs (p : Parameter) : CallArgument → Prop
  | handle : p.role.type? = none → PassedAs p (.handle p.name)
  | extract {type : ArgType} : p.role.type? = some type →
      PassedAs p (.extract p.name type p.role.isNullable)

/-- Whether the function is called with a value read from the route. -/
def CallArgument.isExtract : CallArgument → Bool
  | .handle _ => false
  | .extract .. => true

/-- The argument as the screen's function is called with it. -/
def Argument.extract (a : Argument) : CallArgument :=
  .extract a.name a.type a.nullable

/-- The place of the parameter on the trigger's path. -/
def TriggerParam.piece (q : TriggerParam) : PathPiece :=
  .value q.name q.type q.nullable

namespace Parameter

variable {p : Parameter} {a : Argument} {q : TriggerParam}

namespace Yields

variable (h : p.Yields a q)
include h

theorem describes : a.Describes p := by
  obtain ⟨htype, hname, hnullable, hdefault⟩ := argument?_eq_some_iff.1 h.argument
  exact ⟨hname, htype, hnullable, hdefault⟩

theorem standsFor {s : Screen} (hp : p ∈ s.params) : q.StandsFor s p := by
  obtain ⟨htype, hname, hsource, hnullable, -⟩ := triggerParam?_eq_some_iff.1 h.triggerParam
  refine ⟨hname, hsource, htype, hnullable, ?_⟩
  rw [Screen.mem_required, ← h.isRequired_iff]
  exact (and_iff_right hp).symm

theorem agrees : a.Agrees q := by
  have hdefault : q.default = p.role.paramDefault :=
    (triggerParam?_eq_some_iff.1 h.triggerParam).2.2.2.2
  refine ⟨h.name_eq, h.type_eq, h.nullable_eq, fun v => ?_, ?_⟩
  · rw [h.describes.default_eq, hdefault, Role.paramDefault]
    cases p.role.default? <;> cases p.role.isNullable <;> simp
  · rw [h.describes.default_eq, h.describes.nullable_eq, hdefault, Role.paramDefault]
    cases p.role.default? <;> cases p.role.isNullable <;> simp

end Yields

theorem passedAs_callArgument (p : Parameter) : p.PassedAs p.callArgument := by
  rw [callArgument]
  cases htype : p.role.type? with
  | none => exact .handle htype
  | some type => exact .extract htype

theorem isExtract_callArgument (p : Parameter) : p.callArgument.isExtract = p.role.isRoutable := by
  rw [callArgument, Role.isRoutable]
  cases p.role.type? <;> rfl

end Parameter

namespace Screen

/-! ## The registration -/

theorem forall₂_describes (s : Screen) :
    List.Forall₂ Argument.Describes s.registration.arguments s.routable := by
  have h : List.Forall₂ Argument.Describes (s.routable.filterMap Parameter.argument?)
      (s.routable.filterMap some) := forall₂_filterMap fun p hp => by
    obtain ⟨a, q, h⟩ := exists_yields hp
    exact ⟨a, p, h.argument, rfl, h.describes⟩
  rwa [List.filterMap_some] at h

/-- Each parameter has its place in the call. -/
theorem forall₂_passedAs (s : Screen) :
    List.Forall₂ Parameter.PassedAs s.params s.registration.screen.arguments := by
  show List.Forall₂ Parameter.PassedAs s.params (s.params.map Parameter.callArgument)
  rw [List.forall₂_map_right_iff, List.forall₂_same]
  exact fun p _ => p.passedAs_callArgument

/-- The values that the function is called with are the arguments, in order. -/
theorem filter_isExtract (s : Screen) :
    s.registration.screen.arguments.filter (·.isExtract) =
      s.registration.arguments.map Argument.extract := by
  have hcalls : (s.params.map Parameter.callArgument).filter (·.isExtract) =
      s.routable.map Parameter.callArgument := by
    rw [List.filter_map, routable]
    exact congrArg _ (List.filter_congr fun p _ => p.isExtract_callArgument)
  have harguments : (s.routable.filterMap Parameter.argument?).map Argument.extract =
      s.routable.map Parameter.callArgument := by
    rw [List.map_filterMap, ← List.filterMap_eq_map]
    refine List.filterMap_congr fun p hp => ?_
    obtain ⟨type, htype⟩ := Option.isSome_iff_exists.1 (mem_routable.1 hp).2
    rw [Parameter.argument?, Function.comp_apply, Parameter.callArgument, htype]
    rfl
  exact hcalls.trans harguments.symm

theorem filter_not_isExtract (s : Screen) :
    s.registration.screen.arguments.filter (!·.isExtract) =
      s.registration.handles.map fun h => .handle h.name := by
  have hcalls : (s.params.map Parameter.callArgument).filter (!·.isExtract) =
      s.handles.map Parameter.callArgument := by
    rw [List.filter_map, handles]
    exact congrArg _ (List.filter_congr fun p _ => congrArg _ p.isExtract_callArgument)
  have hhandles : (s.handles.map fun p => (⟨p.name, p.source⟩ : Formal)).map
      (fun h => CallArgument.handle h.name) = s.handles.map Parameter.callArgument := by
    rw [List.map_map]
    refine List.map_congr_left fun p hp => ?_
    have htype : p.role.type? = none := by simpa [Role.isRoutable] using (mem_handles.1 hp).2
    rw [Parameter.callArgument, htype]
    rfl
  exact hcalls.trans hhandles.symm

/-! ## The trigger -/

theorem forall₂_standsFor (s : Screen) :
    List.Forall₂ (fun q p => TriggerParam.StandsFor q s p) s.trigger.params s.routable := by
  have h : List.Forall₂ (fun q p => TriggerParam.StandsFor q s p)
      (s.routable.filterMap Parameter.triggerParam?) (s.routable.filterMap some) :=
    forall₂_filterMap fun p hp => by
      obtain ⟨a, q, h⟩ := exists_yields hp
      exact ⟨q, p, h.triggerParam, rfl, h.standsFor (mem_routable.1 hp).1⟩
  rwa [List.filterMap_some] at h

theorem forall₂_agrees (s : Screen) :
    List.Forall₂ Argument.Agrees s.registration.arguments s.trigger.params :=
  forall₂_filterMap fun p hp => by
    obtain ⟨a, q, h⟩ := exists_yields hp
    exact ⟨a, q, h.argument, h.triggerParam, h.agrees⟩

/-- The values on the path are those of the parameters, in another order. -/
theorem values_perm (s : Screen) :
    (s.trigger.path.filter (!·.isText)).Perm (s.trigger.params.map TriggerParam.piece) := by
  have hvalues : s.trigger.path.filter (!·.isText) = s.carried.filterMap Parameter.pathPiece? :=
    (filter_pathPieces s.walk).trans s.filterMap_walk
  have hparams : s.trigger.params.map TriggerParam.piece =
      s.routable.filterMap Parameter.pathPiece? := by
    show (s.routable.filterMap Parameter.triggerParam?).map TriggerParam.piece = _
    rw [List.map_filterMap]
    refine List.filterMap_congr fun p _ => ?_
    rw [Parameter.triggerParam?, Parameter.pathPiece?, Option.map_map]
    rfl
  rw [hvalues, hparams]
  exact s.carried_perm.filterMap _

end Screen

/-- **The members of a unit fit together.** Every parameter is a handle, a required argument or an
optional one, once and in declaration order. The registration has the handles as formal parameters,
and it describes the same arguments that the trigger takes: a literal of the one is a literal of the
other, the trigger insists on the required arguments, and only a nullable one without a literal may
be absent. The screen's function is called with all parameters as they are declared, and each
parameter of the trigger has one place on its path. -/
theorem members_fit (s : Screen) (lead : String) :
    let registration := (s.unit lead).registration
    let trigger := (s.unit lead).trigger
    let calls := registration.screen.arguments
    (∀ p ∈ s.params, p ∈ s.handles ∧ p ∉ s.required ∧ p ∉ s.optional ∨
      p ∉ s.handles ∧ p ∈ s.required ∧ p ∉ s.optional ∨
      p ∉ s.handles ∧ p ∉ s.required ∧ p ∈ s.optional) ∧
    (s.handles ++ (s.required ++ s.optional)).Perm s.params ∧
    s.handles.Sublist s.params ∧ s.required.Sublist s.params ∧ s.optional.Sublist s.params ∧
    s.routable.Sublist s.params ∧ (s.required ++ s.optional).Perm s.routable ∧
    registration.handles = s.handles.map (fun p => ⟨p.name, p.source⟩) ∧
    List.Forall₂ Argument.Describes registration.arguments s.routable ∧
    List.Forall₂ (fun q p => TriggerParam.StandsFor q s p) trigger.params s.routable ∧
    List.Forall₂ Argument.Agrees registration.arguments trigger.params ∧
    List.Forall₂ Parameter.PassedAs s.params calls ∧
    calls.filter (·.isExtract) = registration.arguments.map Argument.extract ∧
    calls.filter (!·.isExtract) = registration.handles.map (fun h => .handle h.name) ∧
    (trigger.path.filter (!·.isText)).Perm (trigger.params.map TriggerParam.piece) :=
  ⟨fun _ => Screen.mem_one_part, s.partition_perm, List.filter_sublist, List.filter_sublist,
    List.filter_sublist, List.filter_sublist, s.carried_perm, rfl, s.forall₂_describes,
    s.forall₂_standsFor, s.forall₂_agrees, s.forall₂_passedAs, s.filter_isExtract,
    s.filter_not_isExtract, s.values_perm⟩

end ScreenRoutes
