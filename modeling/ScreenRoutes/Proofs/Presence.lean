import ScreenRoutes.Proofs.Arguments
import ScreenRoutes.Proofs.Registration
import ScreenRoutes.Tour

/-!
# What a screen is called with

A screen's function insists on its arguments that are not nullable. Whatever the route, and whatever
else is registered in the graph, an entry with the screen's pattern has all of them, each with the
type that the call reads: every declared argument is read under its own type
(`exists_value_of_resolve`), and no capture that is left over takes the name of one.
-/

namespace ScreenRoutes

variable {κ : Type}

/-- A bundle read for a screen has what the arguments of the screen come to. -/
theorem GraphBuilder.exists_value_of_resolve {s : Screen} {b : GraphBuilder κ} {g : Graph κ}
    {r : Registered κ} {route : String} {e : Entry} (hnames : (s.params.map (·.name)).Nodup)
    (hbuild : b.build.1 = .ok g) (hr : r ∈ b.pending) (hpattern : e.pattern = r.pattern)
    (harguments : r.arguments = s.registration.arguments) (hresolve : g.resolve route = .ok e) :
    ∃ text : Argument → Option String, ∀ a ∈ s.registration.arguments,
      a.valueOf route (text a) = .ok (e.arguments.get? a.name) := by
  obtain ⟨d, captures, bundle, hmatch, hdecode, rfl⟩ := Graph.resolve_eq_ok_iff.1 hresolve
  obtain ⟨hd, hcaptures⟩ := Graph.mem_of_match? hmatch
  have hfrom := comesFrom_of_text_eq hbuild hr hd hpattern
  have hargs : d.arguments = s.registration.arguments := hfrom.arguments_eq.trans harguments
  have hnodup := s.registration_arguments_nodup hnames
  have hdistinct : (captures.map (·.1)).Nodup :=
    List.Nodup.sublist (Pattern.captures?_names_sublist hcaptures)
      (Pattern.names_nodup_of_parse hfrom.parse_eq)
  rw [hargs] at hdecode
  obtain ⟨decoded, value, -, hvalue, rfl⟩ := (decodeArguments_eq_ok_iff hnodup hdistinct).1 hdecode
  refine ⟨fun a => decoded.lookup a.name, fun a ha => ?_⟩
  rw [get?_bundleOf hnodup value decoded ha]
  exact hvalue a ha

theorem isSome_mapM {α β : Type} {f : α → Option β} {l : List α} (h : ∀ x ∈ l, (f x).isSome) :
    (l.mapM f).isSome := by
  induction l with
  | nil => rfl
  | cons x l ih =>
    rw [List.forall_mem_cons] at h
    obtain ⟨y, hy⟩ := Option.isSome_iff_exists.1 h.1
    obtain ⟨ys, hys⟩ := Option.isSome_iff_exists.1 (ih h.2)
    rw [List.mapM_cons, hy, hys]
    rfl

/-- A screen receives something for each argument that is there as it should be. -/
theorem ScreenCall.isSome_received? {c : ScreenCall} {b : Bundle}
    (h : ∀ name type, .extract name type false ∈ c.arguments → (b.getOf? type name).isSome) :
    (c.received? b).isSome := by
  refine isSome_mapM fun a ha => ?_
  cases a with
  | handle name => rfl
  | extract name type nullable =>
    rw [CallArgument.received?]
    cases hget : b.getOf? type name with
    | some v => rfl
    | none =>
      cases nullable with
      | true => rfl
      | false => simpa [hget] using h name type ha

/-- **A route that resolves to a screen's destination has all that the screen's function insists
on.** A nullable argument is a string or is absent. -/
theorem extracts_of_resolve {s : Screen} {lead : String} {b : GraphBuilder κ} {g : Graph κ}
    {content : κ} {route : String} {e : Entry} (hnames : (s.params.map (·.name)).Nodup)
    (hbuild : b.build.1 = .ok g)
    (hregistered : ⟨(s.unit lead).registration.pattern, (s.unit lead).registration.arguments,
      content⟩ ∈ b.pending)
    (hresolve : g.resolve route = .ok e)
    (hpattern : e.pattern = (s.unit lead).registration.pattern) :
    (∀ name type, .extract name type false ∈ (s.unit lead).registration.screen.arguments →
        ∃ v, e.arguments.get? name = some v ∧ v.type = type ∧
          e.arguments.getOf? type name = some v) ∧
      (∀ name type, .extract name type true ∈ (s.unit lead).registration.screen.arguments →
        ∀ v, e.arguments.get? name = some v → v.type = .string) ∧
      ((s.unit lead).registration.screen.received? e.arguments).isSome := by
  obtain ⟨text, hvalue⟩ := GraphBuilder.exists_value_of_resolve hnames hbuild hregistered hpattern
    rfl hresolve
  have hpresent : ∀ name type,
      .extract name type false ∈ (s.unit lead).registration.screen.arguments →
        ∃ v, e.arguments.get? name = some v ∧ v.type = type ∧
          e.arguments.getOf? type name = some v := by
    intro name type hmem
    obtain ⟨a, ha, rfl, rfl, hnullable, hsound⟩ := s.exists_argument_of_extract hmem
    obtain ⟨htype, habsent⟩ := hsound.of_valueOf (hvalue a ha)
    cases hget : e.arguments.get? a.name with
    | none => simp [hnullable, hget] at habsent
    | some v =>
      have hv : v.type = a.type := htype v hget
      exact ⟨v, rfl, hv, by simp [Bundle.getOf?, hget, hv]⟩
  refine ⟨hpresent, fun name type hmem v hv => ?_, ?_⟩
  · obtain ⟨a, ha, rfl, -, hnullable, hsound⟩ := s.exists_argument_of_extract hmem
    rw [(hsound.of_valueOf (hvalue a ha)).1 v hv]
    exact hsound.string_of_nullable hnullable
  · refine ScreenCall.isSome_received? fun name type hmem => ?_
    obtain ⟨v, -, -, hv⟩ := hpresent name type hmem
    exact Option.isSome_of_mem hv

/-- The detail screen gets what it insists on from a route with entries that it does not know or
knows already. -/
theorem extracts_of_resolve_detail :
    let arguments : Bundle :=
      ⟨[("lang", .string "en"), ("ja", .string "A"), ("like", .bool true),
        ("default_test", .string "yes")]⟩
    (Graph.ofScreens (fun _ => ()) [TourScreen.detail.screen]).resolve
        "detail/e%6E/true?x&ja=%41&ja=2&like=x" =
      .ok ⟨"detail/e%6E/true?x&ja=%41&ja=2&like=x", TourScreen.detail.screen.pattern, arguments⟩ ∧
    (∃ v, arguments.get? "like" = some v ∧ v.type = .bool ∧
      arguments.getOf? .bool "like" = some v) ∧
    (∀ v, arguments.get? "ja" = some v → v.type = .string) ∧
    (TourScreen.detail.unit.registration.screen.received? arguments).isSome := by
  intro arguments
  obtain ⟨hpresent, hnullable, hreceived⟩ := @extracts_of_resolve Unit TourScreen.detail.screen
    defaultUnitPrefix (.ofScreens defaultUnitPrefix (fun _ => ()) [TourScreen.detail.screen])
    (.ofScreens (fun _ => ()) [TourScreen.detail.screen]) () "detail/e%6E/true?x&ja=%41&ja=2&like=x"
    ⟨"detail/e%6E/true?x&ja=%41&ja=2&like=x", TourScreen.detail.screen.pattern, arguments⟩
    (by decide) rfl List.mem_cons_self rfl rfl
  exact ⟨rfl, hpresent "like" .bool (by decide), hnullable "ja" .string (by decide), hreceived⟩

end ScreenRoutes
