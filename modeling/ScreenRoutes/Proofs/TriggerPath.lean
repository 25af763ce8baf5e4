import Mathlib.Data.List.Chain
import ScreenRoutes.Proofs.TriggerRoute

/-!
# The path of a trigger

A screen's pattern and the path of its trigger are made from one walk, the first by writing its
steps one after the other and the second by joining texts and dropping whatever a route does not
carry. Both show the same route (`path_mirrors_pattern`): with each value written as a placeholder
the path is the pattern, its values are the arguments in the order of the route, and text and values
take turns in it.
-/

namespace ScreenRoutes

open Text

namespace PathPiece

/-- A piece as a pattern shows it: a value stands as its name between braces. -/
def template : PathPiece → String
  | .text s => s
  | .value name _ _ => "\x7b" ++ name ++ "\x7d"

def isText : PathPiece → Bool
  | .text _ => true
  | .value .. => false

/-- Whether the piece is the value of a parameter, as the parameter is declared. -/
def IsValueOf (piece : PathPiece) (p : Parameter) : Prop :=
  ∃ type, p.role.type? = some type ∧ piece = .value p.name type p.role.isNullable

end PathPiece

def RouteStep.isText : RouteStep → Bool
  | .text _ => true
  | .path _ | .query _ => false

/-! ## Values -/

def RouteStep.value? : RouteStep → Option PathPiece
  | .text _ => none
  | .path p | .query p => p.pathPiece?

theorem isText_of_pathPiece? {p : Parameter} {piece : PathPiece} (h : p.pathPiece? = some piece) :
    piece.isText = false := by
  obtain ⟨type, -, rfl⟩ := Option.map_eq_some_iff.1 h
  rfl

theorem filter_addText (t : String) (pieces : List PathPiece) :
    (addText t pieces).filter (!·.isText) = pieces.filter (!·.isText) := by
  cases pieces with
  | nil => rfl
  | cons piece pieces => cases piece <;> rfl

/-- Joining texts neither loses nor moves a value. -/
theorem filter_pathPieces (steps : List RouteStep) :
    (pathPieces steps).filter (!·.isText) = steps.filterMap RouteStep.value? := by
  induction steps with
  | nil => rfl
  | cons step steps ih =>
    cases step with
    | text t => rw [pathPieces, filter_addText, ih, List.filterMap_cons_none rfl]
    | path p | query p =>
      rw [pathPieces, List.filter_append, ih]
      cases hpiece : p.pathPiece? with
      | none => rw [List.filterMap_cons_none (by exact hpiece)]; rfl
      | some piece =>
        rw [List.filterMap_cons_some (by exact hpiece)]
        simp [isText_of_pathPiece? hpiece]

namespace Screen

theorem filterMap_queryWalk (lead : String) (ps : List Parameter) :
    (queryWalk lead ps).filterMap RouteStep.value? = ps.filterMap Parameter.pathPiece? := by
  induction ps generalizing lead with
  | nil => rfl
  | cons p ps ih =>
    simp only [queryWalk, List.filterMap_cons, RouteStep.value?, ih]

theorem filterMap_pathWalk (ps : List Parameter) :
    (ps.flatMap fun p => [RouteStep.text "/", .path p]).filterMap RouteStep.value? =
      ps.filterMap Parameter.pathPiece? := by
  induction ps with
  | nil => rfl
  | cons p ps ih =>
    simp only [List.flatMap_cons, List.filterMap_append, ih]
    simp only [List.filterMap_cons, List.filterMap_nil, RouteStep.value?]
    cases p.pathPiece? <;> rfl

/-- A walk comes by the arguments in the order in which a route carries them. -/
theorem filterMap_walk (s : Screen) :
    s.walk.filterMap RouteStep.value? = s.carried.filterMap Parameter.pathPiece? := by
  rw [walk, routeWalk, carried, List.cons_append, List.filterMap_cons_none rfl,
    List.filterMap_append, List.filterMap_append, filterMap_queryWalk, filterMap_pathWalk]

/-- The value of each parameter that a route carries is on the trigger's path. -/
theorem mem_trigger_path {s : Screen} {p : Parameter} {piece : PathPiece} (hp : p ∈ s.routable)
    (hpiece : p.pathPiece? = some piece) : piece ∈ s.trigger.path := by
  have hvalues : piece ∈ s.trigger.path.filter (!·.isText) := by
    show piece ∈ (pathPieces s.walk).filter (!·.isText)
    rw [filter_pathPieces, s.filterMap_walk]
    exact List.mem_filterMap.2 ⟨p, mem_carried.2 hp, hpiece⟩
  exact (List.mem_filter.1 hvalues).1

end Screen

/-- A parameter that a route carries has a value on the path. -/
theorem exists_isValueOf {p : Parameter} (h : p.role.isRoutable) :
    ∃ piece, p.pathPiece? = some piece ∧ piece.IsValueOf p := by
  obtain ⟨type, htype⟩ := Option.isSome_iff_exists.1 h
  exact ⟨_, by rw [Parameter.pathPiece?, htype, Option.map_some], type, htype, rfl⟩

theorem forall₂_filterMap_pathPiece? {ps : List Parameter} (h : ∀ p ∈ ps, p.role.isRoutable) :
    List.Forall₂ PathPiece.IsValueOf (ps.filterMap Parameter.pathPiece?) ps := by
  induction ps with
  | nil => exact .nil
  | cons p ps ih =>
    rw [List.forall_mem_cons] at h
    obtain ⟨piece, hpiece, hvalue⟩ := exists_isValueOf h.1
    rw [List.filterMap_cons_some hpiece]
    exact .cons hvalue (ih h.2)

/-! ## Text and values in turn -/

/-- Whether steps start with text, if there are any, and no two arguments are neighbours. -/
structure Parted (steps : List RouteStep) : Prop where
  isText_head : ∀ step ∈ steps.head?, step.isText
  isChain : steps.IsChain fun a b => a.isText ∨ b.isText

theorem Parted.text {steps : List RouteStep} (h : Parted steps) (t : String) :
    Parted (.text t :: steps) :=
  ⟨by simp [RouteStep.isText], h.isChain.cons fun _ _ => .inl rfl⟩

theorem Parted.text_argument {steps : List RouteStep} (h : Parted steps) (t : String)
    (step : RouteStep) : Parted (.text t :: step :: steps) :=
  ⟨by simp [RouteStep.isText],
    (h.isChain.cons fun _ hnext => .inr (h.isText_head _ hnext)).cons fun _ _ => .inl rfl⟩

theorem parted_queryWalk (lead : String) (ps : List Parameter) : Parted (queryWalk lead ps) := by
  induction ps generalizing lead with
  | nil => exact ⟨nofun, .nil⟩
  | cons p ps ih => exact (((ih "&").text_argument "=" (.query p)).text p.name).text lead

theorem Parted.pathWalk {steps : List RouteStep} (h : Parted steps) (ps : List Parameter) :
    Parted ((ps.flatMap fun p => [.text "/", .path p]) ++ steps) := by
  induction ps with
  | nil => exact h
  | cons p ps ih => exact ih.text_argument "/" (.path p)

theorem Screen.parted_walk (s : Screen) : Parted s.walk :=
  ((parted_queryWalk "?" s.optional).pathWalk s.required).text s.route

/-- Whether two pieces are text and a value, in either order. -/
def TakeTurns (a b : PathPiece) : Prop :=
  a.isText ≠ b.isText

theorem head?_addText (t : String) (pieces : List PathPiece) :
    ∃ u, (addText t pieces).head? = some (.text u) := by
  cases pieces with
  | nil => exact ⟨t, rfl⟩
  | cons piece pieces =>
    cases piece with
    | text u => exact ⟨t ++ u, rfl⟩
    | value name type nullable => exact ⟨t, rfl⟩

/-- Text that is joined to text leaves no two texts as neighbours. -/
theorem isChain_addText {pieces : List PathPiece} (h : pieces.IsChain TakeTurns) (t : String) :
    (addText t pieces).IsChain TakeTurns := by
  cases pieces with
  | nil => exact .singleton _
  | cons piece pieces =>
    cases piece with
    | text u => exact List.isChain_cons.2 ⟨(List.isChain_cons.1 h).1, h.tail⟩
    | value name type nullable =>
      refine h.cons fun next hnext => ?_
      obtain rfl := Option.some.inj hnext
      simp [TakeTurns, PathPiece.isText]

/-- A path starts with text wherever its steps do. -/
theorem isText_head?_pathPieces {steps : List RouteStep}
    (h : ∀ step ∈ steps.head?, step.isText) : ∀ piece ∈ (pathPieces steps).head?, piece.isText := by
  cases steps with
  | nil => exact nofun
  | cons step steps =>
    cases step with
    | text t =>
      obtain ⟨u, hu⟩ := head?_addText t (pathPieces steps)
      intro piece hpiece
      obtain rfl := Option.some.inj (hu.symm.trans hpiece)
      rfl
    | path p | query p => exact absurd (h _ rfl) Bool.false_ne_true

/-- Texts are joined and no two arguments are neighbours, so text and values take turns. -/
theorem isChain_pathPieces {steps : List RouteStep}
    (h : steps.IsChain fun a b => a.isText ∨ b.isText) : (pathPieces steps).IsChain TakeTurns := by
  induction steps with
  | nil => exact .nil
  | cons step steps ih =>
    obtain ⟨hnext, hrest⟩ := List.isChain_cons.1 h
    have ih := ih hrest
    cases step with
    | text t => exact isChain_addText ih t
    | path p | query p =>
      rw [pathPieces]
      cases hpiece : p.pathPiece? with
      -- without a value the path is that of the steps behind, so no new neighbours meet
      | none => exact ih
      | some piece =>
        have hhead : ∀ step ∈ steps.head?, step.isText := fun step hstep =>
          (hnext step hstep).resolve_left Bool.false_ne_true
        refine ih.cons fun next hmem => ?_
        rw [TakeTurns, isText_of_pathPiece? hpiece, isText_head?_pathPieces hhead next hmem]
        exact Bool.false_ne_true

/-! ## The path and the pattern -/

/-- **The pattern of a screen and the path of its trigger are one route.** With a placeholder for
each value the path is the pattern; its values are the required arguments and then the optional
ones, each in declaration order; and it starts with text and has text and values in turn. -/
theorem path_mirrors_pattern (s : Screen) (lead : String) :
    concat ((s.unit lead).trigger.path.map PathPiece.template) =
        (s.unit lead).registration.pattern ∧
      (s.unit lead).registration.pattern = (s.unit lead).constant.value ∧
      (s.unit lead).constant.value = s.pattern ∧
      List.Forall₂ PathPiece.IsValueOf ((s.unit lead).trigger.path.filter (!·.isText))
        (s.required ++ s.optional) ∧
      (∃ t, (s.unit lead).trigger.path.head? = some (.text t)) ∧
      (s.unit lead).trigger.path.IsChain TakeTurns := by
  have hroutable : ∀ p ∈ s.carried, p.role.isRoutable := fun p hp =>
    (Screen.mem_routable.1 (Screen.mem_carried.1 hp)).2
  refine ⟨?_, rfl, rfl, ?_, head?_addText s.route _, isChain_pathPieces s.parted_walk.isChain⟩
  · refine Eq.trans (concat_pathPieces (fun _ => rfl) _ fun p hp => ?_) s.pattern_eq_written.symm
    obtain ⟨piece, hpiece, type, -, rfl⟩ :=
      exists_isValueOf (hroutable p (Screen.mem_carried_of_mem_walk hp))
    exact ⟨_, hpiece, rfl⟩
  · have hvalues : (s.unit lead).trigger.path.filter (!·.isText) =
        s.carried.filterMap Parameter.pathPiece? :=
      (filter_pathPieces s.walk).trans s.filterMap_walk
    rw [hvalues]
    exact forall₂_filterMap_pathPiece? hroutable

end ScreenRoutes
