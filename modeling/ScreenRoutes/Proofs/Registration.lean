import ScreenRoutes.Proofs.Graph
import ScreenRoutes.TriggerCall

/-!
# Graphs of screens

Registering the units of some screens gives a graph with a destination for each of them
(`build_ofScreens`), as long as their patterns differ. Where a route's name is a single part of a
path, screens with different routes have different patterns (`patterns_nodup`).
-/

namespace ScreenRoutes

open Text

variable {κ : Type}

/-- The destination that a screen's unit comes to. -/
def Screen.destination (content : Screen → κ) (s : Screen) : Destination κ :=
  ⟨s.parts, s.registration.arguments, content s⟩

/-- The builder with the units of the screens, registered in order. -/
def GraphBuilder.ofScreens (lead : String) (content : Screen → κ) (screens : List Screen) :
    GraphBuilder κ :=
  screens.foldl (fun b s => b.register (s.unit lead) (content s)) .empty

def Graph.ofScreens (content : Screen → κ) (screens : List Screen) : Graph κ :=
  ⟨screens.map (Screen.destination content), none⟩

namespace GraphBuilder

variable {lead : String} {content : Screen → κ}

theorem foldl_register (screens : List Screen) (b : GraphBuilder κ) :
    screens.foldl (fun b s => b.register (s.unit lead) (content s)) b =
      { b with
        pending := b.pending ++
          screens.map fun s => ⟨s.pattern, s.registration.arguments, content s⟩ } := by
  induction screens generalizing b with
  | nil => simp
  | cons s screens ih =>
    rw [List.foldl_cons, ih]
    simp [register, add, Screen.unit, Screen.registration]

theorem ofScreens_eq (screens : List Screen) :
    ofScreens lead content screens =
      ⟨screens.map fun s => ⟨s.pattern, s.registration.arguments, content s⟩, none⟩ :=
  foldl_register screens .empty

theorem ofScreens_singleton (s : Screen) :
    ofScreens lead content [s] = empty.register (s.unit lead) (content s) := rfl

theorem build_ofScreens {screens : List Screen} (hnamed : ∀ s ∈ screens, s.WellNamed)
    (hpatterns : (screens.map (·.pattern)).Nodup) :
    (ofScreens lead content screens).build.1 = .ok (Graph.ofScreens content screens) := by
  rw [build_eq_ok_iff, ofScreens_eq]
  refine ⟨by rwa [List.map_map], ?_, rfl⟩
  rw [Graph.ofScreens, List.forall₂_map_left_iff, List.forall₂_map_right_iff, List.forall₂_same]
  exact fun s hs => ⟨Screen.parse_pattern (hnamed s hs), rfl, rfl⟩

end GraphBuilder

namespace Screen

/-- The pattern of a route's name that is a single part tells the name. -/
theorem head?_segments {s : Screen} (h : '/' ∉ s.route.toList) :
    s.parts.segments.head? = some (.fixed s.route) := by
  rw [parts, routeSegments, List.splitOn_eq_singleton h]
  simp

theorem patterns_nodup {screens : List Screen} (hroutes : (screens.map (·.route)).Nodup)
    (hnamed : ∀ s ∈ screens, s.WellNamed) (hslash : ∀ s ∈ screens, '/' ∉ s.route.toList) :
    (screens.map (·.pattern)).Nodup := by
  refine List.Nodup.map_on (fun s hs t ht hpattern => ?_) (List.Nodup.of_map _ hroutes)
  have hparts : s.parts = t.parts := by
    have hparse := parse_pattern (hnamed s hs)
    rw [hpattern, parse_pattern (hnamed t ht)] at hparse
    exact (Except.ok.inj hparse).symm
  have hroute : s.route = t.route := by
    have hhead := head?_segments (hslash s hs)
    rw [hparts, head?_segments (hslash t ht)] at hhead
    exact (Segment.fixed.inj (Option.some.inj hhead)).symm
  exact List.inj_on_of_nodup_map hroutes hs ht hroute

end Screen

end ScreenRoutes
