import Mathlib.Data.List.Forall2
import Mathlib.Data.List.Pairwise
import ScreenRoutes.Proofs.Registration
import ScreenRoutes.Tour

/-!
# The order of registration

The first destination that matches a route decides what becomes of it, so the order counts where two
of them match. Destinations added behind never have a say in a route that is matched already
(`exists_behind_of_addAll`, `match?_of_append`). Where no route is matched twice the order does not
count at all (`match?_of_perm`), and so it is for screens whose routes differ: each matches only
what starts with its own (`disjoint_ofScreens`).
-/

namespace ScreenRoutes

open Text

variable {κ : Type}

/-! ## Matching -/

def Destination.accepts (d : Destination κ) (route : String) : Bool :=
  (d.pattern.captures? route).isSome

/-- Whether no route matches both destinations. -/
def Destination.Disjoint (d d' : Destination κ) : Prop :=
  ∀ route, ¬ (d.accepts route ∧ d'.accepts route)

instance : Std.Symm (@Destination.Disjoint κ) :=
  ⟨fun _ _ h route hboth => h route hboth.symm⟩

theorem Destination.accepts_iff {d : Destination κ} {route : String} :
    d.accepts route ↔ ∃ captures, d.pattern.captures? route = some captures :=
  Option.isSome_iff_exists

namespace Graph

/-- Whether no route matches two destinations of the graph. -/
def Disjoint (g : Graph κ) : Prop :=
  g.destinations.Pairwise Destination.Disjoint

/-- A route is matched by one destination at most. -/
theorem Disjoint.countP_le_one {g : Graph κ} (h : g.Disjoint) (route : String) :
    g.destinations.countP (·.accepts route) ≤ 1 := by
  rw [List.countP_eq_length_filter]
  have hpairs := List.Pairwise.filter (·.accepts route) h
  have haccepts : ∀ d ∈ g.destinations.filter (·.accepts route), d.accepts route :=
    fun d hd => (List.mem_filter.1 hd).2
  generalize g.destinations.filter (·.accepts route) = ds at hpairs haccepts
  match ds with
  | [] | [_] => simp
  | d :: d' :: _ =>
    have hdisjoint := List.rel_of_pairwise_cons hpairs List.mem_cons_self
    have hd' := haccepts d' (List.mem_cons_of_mem _ List.mem_cons_self)
    exact absurd ⟨haccepts d List.mem_cons_self, hd'⟩ (hdisjoint route)

/-- Where no route is matched twice, the order of destinations does not count. -/
theorem match?_of_perm {g g' : Graph κ} (hperm : g.destinations.Perm g'.destinations)
    (h : g.Disjoint) (route : String) : g'.match? route = g.match? route := by
  cases hmatch : g.match? route with
  | none =>
    rw [match?, List.findSome?_eq_none_iff] at hmatch ⊢
    exact fun d hd => hmatch d (hperm.mem_iff.2 hd)
  | some found =>
    obtain ⟨d, captures⟩ := found
    obtain ⟨hd, hcaptures⟩ := mem_of_match? hmatch
    have hother : ∀ d' ∈ g'.destinations, d' ≠ d → d'.pattern.captures? route = none := by
      intro d' hd' hne
      rw [Option.eq_none_iff_forall_ne_some]
      intro captures' hcaptures'
      have hdisjoint := h.forall hd (hperm.mem_iff.2 hd') hne.symm
      exact hdisjoint route
        ⟨Destination.accepts_iff.2 ⟨captures, hcaptures⟩,
          Destination.accepts_iff.2 ⟨captures', hcaptures'⟩⟩
    rw [match?_of_forall_ne (hperm.mem_iff.1 hd) hother, hcaptures, Option.map_some]

/-- A route that is matched already is not left to a destination behind. -/
theorem match?_of_append {g g' : Graph κ} {behind : List (Destination κ)} {route : String}
    (hsplit : g'.destinations = g.destinations ++ behind)
    (h : ∃ d ∈ g.destinations, d.accepts route) : g'.match? route = g.match? route := by
  have hsome : (g.match? route).isSome := by
    obtain ⟨d, hd, haccepts⟩ := h
    rw [match?, List.findSome?_isSome_iff]
    exact ⟨d, hd, by rw [Option.isSome_map]; exact haccepts⟩
  rw [match?, hsplit, List.findSome?_append, ← match?, Option.or_of_isSome hsome]

/-- A route comes to the same where it is matched the same way. -/
theorem find_congr {g g' : Graph κ} {route : String} (h : g'.match? route = g.match? route) :
    g'.find route = g.find route ∧ g'.resolve route = g.resolve route := by
  have hfind : g'.find route = g.find route := by rw [find, find, h]
  exact ⟨hfind, by rw [resolve, resolve, hfind]⟩

end Graph

/-! ## Adding destinations -/

namespace GraphBuilder

/-- The builder with more destinations, registered in order. -/
def addAll (b : GraphBuilder κ) (rs : List (Registered κ)) : GraphBuilder κ :=
  rs.foldl (fun b r => b.add r.pattern r.arguments r.content) b

theorem addAll_eq (b : GraphBuilder κ) (rs : List (Registered κ)) :
    b.addAll rs = { b with pending := b.pending ++ rs } := by
  rw [addAll]
  induction rs generalizing b with
  | nil => simp
  | cons r rs ih =>
    rw [List.foldl_cons, ih]
    simp [add]

/-- A registration has one destination at most. -/
theorem rightUnique_comesFrom :
    Relator.RightUnique fun (r : Registered κ) (d : Destination κ) => d.ComesFrom r := by
  intro r ⟨p, arguments, content⟩ ⟨p', arguments', content'⟩ h h'
  obtain rfl := Except.ok.inj (h.parse_eq.symm.trans h'.parse_eq)
  obtain rfl : arguments = arguments' := h.arguments_eq.trans h'.arguments_eq.symm
  obtain rfl : content = content' := h.content_eq.trans h'.content_eq.symm
  rfl

/-- Further registrations put their destinations behind those there were. -/
theorem exists_behind_of_addAll {b : GraphBuilder κ} {more : List (Registered κ)} {g g' : Graph κ}
    (h : b.build.1 = .ok g) (h' : (b.addAll more).build.1 = .ok g') :
    ∃ behind, g'.destinations = g.destinations ++ behind := by
  rw [addAll_eq] at h'
  obtain ⟨-, hall, -⟩ := build_eq_ok_iff.1 h
  obtain ⟨-, hall', -⟩ := build_eq_ok_iff.1 h'
  have hfront := (List.forall₂_take_append _ _ _ hall'.flip).flip
  rw [← List.right_unique_forall₂' rightUnique_comesFrom hfront hall]
  exact ⟨_, (List.take_append_drop b.pending.length g'.destinations).symm⟩

end GraphBuilder

/-! ## Screens -/

/-- No route matches two screens whose own routes differ. -/
theorem Graph.disjoint_ofScreens (content : Screen → κ) {screens : List Screen}
    (hroutes : (screens.map (·.route)).Nodup) (hslash : ∀ s ∈ screens, '/' ∉ s.route.toList) :
    (Graph.ofScreens content screens).Disjoint := by
  rw [Graph.Disjoint, Graph.ofScreens, List.pairwise_map]
  refine List.Pairwise.imp_of_mem ?_ (List.pairwise_map.1 hroutes)
  rintro s t hs ht hne route ⟨hacceptsS, hacceptsT⟩
  obtain ⟨_, hcaptures⟩ := Destination.accepts_iff.1 hacceptsS
  obtain ⟨_, hcaptures'⟩ := Destination.accepts_iff.1 hacceptsT
  have hhead := Screen.head?_of_captures? (hslash s hs) hcaptures
  rw [Screen.head?_of_captures? (hslash t ht) hcaptures'] at hhead
  exact hne (String.toList_inj.1 (Option.some.inj hhead)).symm

/-- **The order in which screens are registered does not count.** Whatever the order, a graph comes
of screens with routes of their own, a route is matched by one destination at most, the same one
with the same captures, and it comes to the same entry, content or error. In general, destinations
registered behind others change nothing for the routes that those match, whether or not their
arguments can be read. -/
theorem registration_order_irrelevant (lead : String) (content : Screen → κ) :
    (∀ screens screens' : List Screen, screens.Perm screens' →
      (screens.map (·.route)).Nodup → (∀ s ∈ screens, s.WellNamed) →
      (∀ s ∈ screens, '/' ∉ s.route.toList) →
      ∃ g g', (GraphBuilder.ofScreens lead content screens).build.1 = .ok g ∧
        (GraphBuilder.ofScreens lead content screens').build.1 = .ok g' ∧
        ∀ route, g.destinations.countP (·.accepts route) ≤ 1 ∧ g'.match? route = g.match? route ∧
          g'.find route = g.find route ∧ g'.resolve route = g.resolve route) ∧
    ∀ (b : GraphBuilder κ) (more : List (Registered κ)) (g g' : Graph κ),
      b.build.1 = .ok g → (b.addAll more).build.1 = .ok g' →
      ∀ route, (∃ d ∈ g.destinations, d.accepts route) →
        g'.match? route = g.match? route ∧ g'.find route = g.find route ∧
          g'.resolve route = g.resolve route := by
  constructor
  · intro screens screens' hperm hroutes hnamed hslash
    have hroutes' : (screens'.map (·.route)).Nodup := (hperm.map _).nodup_iff.1 hroutes
    have hnamed' : ∀ s ∈ screens', s.WellNamed := fun s hs => hnamed s (hperm.mem_iff.2 hs)
    have hslash' : ∀ s ∈ screens', '/' ∉ s.route.toList :=
      fun s hs => hslash s (hperm.mem_iff.2 hs)
    have hdisjoint := Graph.disjoint_ofScreens content hroutes hslash
    refine ⟨_, _,
      GraphBuilder.build_ofScreens hnamed (Screen.patterns_nodup hroutes hnamed hslash),
      GraphBuilder.build_ofScreens hnamed' (Screen.patterns_nodup hroutes' hnamed' hslash'),
      fun route => ⟨hdisjoint.countP_le_one route, ?_⟩⟩
    have hdestinations : (Graph.ofScreens content screens).destinations.Perm
        (Graph.ofScreens content screens').destinations :=
      hperm.map _
    have hmatch := Graph.match?_of_perm hdestinations hdisjoint route
    exact ⟨hmatch, Graph.find_congr hmatch⟩
  · intro b more g g' hbuild hbuild' route haccepts
    obtain ⟨behind, hsplit⟩ := GraphBuilder.exists_behind_of_addAll hbuild hbuild'
    have hmatch := Graph.match?_of_append hsplit haccepts
    exact ⟨hmatch, Graph.find_congr hmatch⟩

/-- The tour's screens the other way round, for a route that no trigger sends; and two overlapping
patterns, of which the first keeps a route whose argument cannot be read. -/
theorem registration_order_irrelevant_tour :
    let screens := TourScreen.all.map TourScreen.screen
    let first : Registered Unit := ⟨"user/{id}", [⟨"id", .int, false, none⟩], ()⟩
    let second : Registered Unit := ⟨"user/{name}", [⟨"name", .string, false, none⟩], ()⟩
    (∃ g g', (GraphBuilder.ofScreens defaultUnitPrefix (fun _ => ()) screens).build.1 = .ok g ∧
      (GraphBuilder.ofScreens defaultUnitPrefix (fun _ => ()) screens.reverse).build.1 = .ok g' ∧
      g'.resolve "detail/en/maybe?ja" = g.resolve "detail/en/maybe?ja") ∧
    ∃ g g', (GraphBuilder.empty.addAll [first]).build.1 = .ok g ∧
      ((GraphBuilder.empty.addAll [first]).addAll [second]).build.1 = .ok g' ∧
      g.resolve "user/me" = .error (.invalidArgument "user/me" "id" .int "me") ∧
      g'.resolve "user/me" = g.resolve "user/me" := by
  intro screens first second
  obtain ⟨horder, hbehind⟩ :=
    registration_order_irrelevant defaultUnitPrefix (fun _ => () : Screen → Unit)
  obtain ⟨g, g', hg, hg', hroutes⟩ := horder screens screens.reverse screens.reverse_perm.symm
    (by decide +kernel) (by decide +kernel) (by decide +kernel)
  refine ⟨⟨g, g', hg, hg', (hroutes "detail/en/maybe?ja").2.2.2⟩, ?_⟩
  have hfirst : (GraphBuilder.empty.addAll [first]).build.1.toOption.map
      (fun g => (g.resolve "user/me", g.destinations.any (·.accepts "user/me"))) =
        some (.error (.invalidArgument "user/me" "id" .int "me"), true) := by decide +kernel
  have hboth : ((GraphBuilder.empty.addAll [first]).addAll [second]).build.1.isOk := by
    decide +kernel
  cases hbuild : (GraphBuilder.empty.addAll [first]).build.1 with
  | error e => rw [hbuild] at hfirst; cases hfirst
  | ok graph =>
    cases hbuild' : ((GraphBuilder.empty.addAll [first]).addAll [second]).build.1 with
    | error e => rw [hbuild'] at hboth; cases hboth
    | ok graph' =>
      rw [hbuild] at hfirst
      obtain ⟨hresolve, haccepts⟩ := Prod.mk.inj (Option.some.inj hfirst)
      exact ⟨graph, graph', rfl, rfl, hresolve,
        (hbehind _ _ graph graph' hbuild hbuild' "user/me" (List.any_eq_true.1 haccepts)).2.2⟩

end ScreenRoutes
