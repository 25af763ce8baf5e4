import ScreenRoutes.Proofs.Arrival
import ScreenRoutes.Proofs.Registration
import ScreenRoutes.Tour

/-!
# Delivering values to screens

The pattern of a screen takes from the route of its trigger exactly the texts sent
(`captures?_trigger_route`), and decoding them gives the bundle of what arrives
(`decodeArguments_sent`). The only values that do not get through are empty strings for required
arguments, which leave a part of the path empty. In a graph of screens whose routes are told apart
by their first part, no other screen matches the route (`resolve_trigger`).
-/

namespace ScreenRoutes

open Text

/-! ## Texts sent -/

namespace Parameter

theorem not_mem_sent {x : Char} (hx : isUnreserved x = false) (hp : x ≠ '%')
    (given : String → Option Value) (p : Parameter) : x ∉ (p.sent given).toList := by
  rw [sent]
  split
  · exact Value.not_mem_sent hx hp _
  · exact List.not_mem_nil

/-- What is sent for a parameter decodes to the text of the value sent. -/
theorem decode?_sent (given : String → Option Value) (p : Parameter) :
    decode? (p.sent given) = some ((p.sent? given).elim "" Value.text) := by
  rw [sent]
  cases p.sent? given with
  | none => rfl
  | some v => exact v.decode?_sent

/-- For a required parameter nothing is sent only where the empty string is given. -/
theorem Yields.sent_eq_empty_iff {p : Parameter} {a : Argument} {q : TriggerParam}
    {given : String → Option Value} (h : p.Yields a q) (hrequired : q.default = .required)
    (hgiven : q.Takes (given q.name)) :
    p.sent given = "" ↔ given q.name = some (.string "") := by
  have hsent : p.sent? given = given q.name := by
    rw [sent?, h.triggerParam, Option.bind_some, TriggerParam.value?, hrequired, h.param_name]
  rw [sent, hsent]
  cases hv : given q.name with
  | none =>
    rw [hv] at hgiven
    exact absurd hrequired hgiven
  | some v => simp

end Parameter

/-! ## The bundle delivered -/

/-- Whether a call gives the empty string to a parameter that it has to give a value. -/
def Trigger.GivesEmpty (t : Trigger) (given : String → Option Value) : Prop :=
  ∃ q ∈ t.params, q.default = .required ∧ given q.name = some (.string "")

instance (t : Trigger) (given : String → Option Value) : Decidable (t.GivesEmpty given) :=
  inferInstanceAs
    (Decidable (∃ q ∈ t.params, q.default = .required ∧ given q.name = some (.string "")))

namespace Screen

variable {s : Screen} {given : String → Option Value}

/-- What a call of the screen's trigger delivers under a name. -/
def arrives? (s : Screen) (given : String → Option Value) (name : String) : Option Value :=
  (s.trigger.params.find? (·.name == name)).bind fun q => q.arrives? (given name)

def delivered (s : Screen) (given : String → Option Value) : Bundle :=
  bundleOf s.registration.arguments (fun a => s.arrives? given a.name) []

theorem arrives?_eq (hnames : (s.params.map (·.name)).Nodup) {p : Parameter} {a : Argument}
    {q : TriggerParam} (hp : p ∈ s.routable) (h : p.Yields a q) :
    s.arrives? given a.name = q.arrives? (given q.name) := by
  rw [h.argument_name, h.param_name, arrives?, find?_trigger_params hnames hp, h.triggerParam,
    Option.bind_some]

theorem get?_delivered (hnames : (s.params.map (·.name)).Nodup) {q : TriggerParam}
    (hq : q ∈ s.trigger.params) :
    (s.delivered given).get? q.name = q.arrives? (given q.name) := by
  obtain ⟨p, hp, a, hpa⟩ := exists_yields_of_mem_params hq
  have hget := get?_bundleOf (s.registration_arguments_nodup hnames)
    (fun a => s.arrives? given a.name) [] (mem_arguments_of_yields hp hpa)
  rw [arrives?_eq hnames hp hpa, hpa.name_eq] at hget
  exact hget

/-- What is delivered to a parameter has its type. -/
theorem getOf?_delivered (hnames : (s.params.map (·.name)).Nodup) (hgiven : s.trigger.Accepts given)
    {q : TriggerParam} (hq : q ∈ s.trigger.params) :
    (s.delivered given).getOf? q.type q.name = q.arrives? (given q.name) := by
  obtain ⟨p, -, a, hpa⟩ := exists_yields_of_mem_params hq
  rw [Bundle.getOf?, get?_delivered hnames hq]
  cases harrives : q.arrives? (given q.name) with
  | none => rfl
  | some v =>
    have hv : v.type = q.type := hpa.type_of_arrives? (hgiven q hq) harrives
    rw [Option.filter_some, if_pos (beq_iff_eq.2 hv)]

theorem get?_delivered_of_not_mem {name : String}
    (hname : name ∉ s.trigger.params.map (·.name)) : (s.delivered given).get? name = none := by
  have hargs : name ∉ s.registration.arguments.map (·.name) := by
    intro hmem
    obtain ⟨a, ha, rfl⟩ := List.mem_map.1 hmem
    obtain ⟨p, hp, q, hpa⟩ := exists_yields_of_mem_arguments ha
    exact hname (List.mem_map.2 ⟨q, mem_params_of_yields hp hpa, hpa.name_eq.symm⟩)
  rw [delivered, get?_bundleOf_of_not_mem hargs]
  rfl

/-- The pairs that a route of the trigger carries. -/
def sentCaptures (s : Screen) (given : String → Option Value) : Captures :=
  s.carried.map fun p => (p.name, p.sent given)

/-- **Decoding what was sent gives what arrives.** -/
theorem decodeArguments_sent (hnames : (s.params.map (·.name)).Nodup)
    (hgiven : s.trigger.Accepts given) (route : String) :
    decodeArguments s.registration.arguments route (s.sentCaptures given) =
      .ok (s.delivered given) := by
  let text (p : Parameter) : String := (p.sent? given).elim "" Value.text
  have hcarried := carried_names_nodup hnames
  have hdistinct : ((s.sentCaptures given).map (·.1)).Nodup := by
    rwa [sentCaptures, List.map_map]
  rw [decodeArguments_eq_ok_iff (s.registration_arguments_nodup hnames) hdistinct]
  refine ⟨s.carried.map fun p => (p.name, text p), fun a => s.arrives? given a.name, ?_,
    fun a ha => ?_, ?_⟩
  · rw [sentCaptures]
    exact decodeCaptures_map (fun (p : Parameter) _ => p.decode?_sent given) route
  · obtain ⟨p, hp, q, hpa⟩ := exists_yields_of_mem_arguments ha
    have htext : text p = (q.value? (given q.name)).elim "" Value.text := by
      simp only [text, Parameter.sent?, hpa.triggerParam, Option.bind_some, hpa.param_name]
    have hvalue := hpa.valueOf_sent (hgiven q (mem_params_of_yields hp hpa)) route
    rw [← htext] at hvalue
    simp only [arrives?_eq hnames hp hpa]
    rw [hpa.argument_name, lookup_map_of_mem hcarried (mem_carried.2 hp), hvalue]
  · refine (bundleOf_of_declared (fun name hname => ?_) _).symm
    rw [mem_registration_arguments_names]
    simpa using hname

/-- **The screen's pattern takes from the trigger's route what was sent**, unless a required
argument is the empty string. -/
theorem captures?_trigger_route (h : s.WellNamed) (hgiven : s.trigger.Accepts given) :
    s.parts.captures? (s.trigger.route given) =
      if s.trigger.GivesEmpty given then none else some (s.sentCaptures given) := by
  have hempty : (∃ p ∈ s.required, p.sent given = "") ↔ s.trigger.GivesEmpty given := by
    constructor
    · rintro ⟨p, hp, hsent⟩
      obtain ⟨hparam, hrequired⟩ := mem_required.1 hp
      have hroutable : p ∈ s.routable :=
        mem_routable.2 ⟨hparam, p.role.isRoutable_of_isRequired hrequired⟩
      obtain ⟨a, q, hpa⟩ := exists_yields hroutable
      have hmem := mem_params_of_yields hroutable hpa
      have hdefault := hpa.isRequired_iff.1 hrequired
      exact ⟨q, hmem, hdefault, (hpa.sent_eq_empty_iff hdefault (hgiven q hmem)).1 hsent⟩
    · rintro ⟨q, hq, hdefault, hsent⟩
      obtain ⟨p, hp, a, hpa⟩ := exists_yields_of_mem_params hq
      refine ⟨p, mem_required.2 ⟨(mem_routable.1 hp).1, hpa.isRequired_iff.2 hdefault⟩, ?_⟩
      exact (hpa.sent_eq_empty_iff hdefault (hgiven q hq)).2 hsent
  rw [trigger_route h.names_nodup, captures?_written h]
  · simp only [hempty, sentCaptures]
  · exact fun p _ => ⟨Parameter.not_mem_sent (by decide) (by decide) given p,
      Parameter.not_mem_sent (by decide) (by decide) given p⟩
  · exact fun p _ => Parameter.not_mem_sent (by decide) (by decide) given p

/-- The route of a trigger starts with the screen's own name. -/
theorem head?_trigger_route (h : s.WellNamed) (hslash : '/' ∉ s.route.toList)
    (given : String → Option Value) :
    ((cut '?' (s.trigger.route given).toList).1.splitOn '/').head? = some s.route.toList := by
  rw [trigger_route h.names_nodup]
  refine head?_written ⟨h.route_free '?' (by decide), hslash⟩ fun p _ => ?_
  exact ⟨Parameter.not_mem_sent (by decide) (by decide) given p,
    Parameter.not_mem_sent (by decide) (by decide) given p⟩

end Screen

/-! ## Resolving what was sent -/

variable {κ : Type}

/-- **The route of a screen's trigger resolves to what arrives**, unless a required argument is the
empty string or another destination matches. -/
theorem Graph.resolve_trigger {g : Graph κ} {d : Destination κ} {s : Screen}
    {given : String → Option Value} (hd : d ∈ g.destinations) (hpattern : d.pattern = s.parts)
    (harguments : d.arguments = s.registration.arguments)
    (hother : ∀ d' ∈ g.destinations, d' ≠ d → d'.pattern.captures? (s.trigger.route given) = none)
    (h : s.WellNamed) (hgiven : s.trigger.Accepts given) :
    g.resolve (s.trigger.route given) =
      if s.trigger.GivesEmpty given then .error (.routeNotFound (s.trigger.route given))
      else .ok ⟨s.trigger.route given, s.pattern, s.delivered given⟩ := by
  have hmatch := match?_of_forall_ne hd hother
  rw [hpattern, Screen.captures?_trigger_route h hgiven] at hmatch
  split
  · next hempty =>
    rw [if_pos hempty, Option.map_none] at hmatch
    exact resolve_of_match?_eq_none hmatch
  · next hempty =>
    rw [if_neg hempty, Option.map_some] at hmatch
    rw [resolve_eq_ok_iff]
    refine ⟨d, _, s.delivered given, hmatch, ?_, ?_⟩
    · rw [harguments]
      exact Screen.decodeArguments_sent h.names_nodup hgiven _
    · rw [hpattern]
      rfl

/-- **In a graph of screens with routes of their own every trigger reaches its own screen.** The
route is found unless a required string is empty, and then each parameter has the value given, or
else its default; an empty string for a nullable parameter counts as left out. -/
theorem trigger_delivers {lead : String} {content : Screen → κ} {screens : List Screen}
    (hroutes : (screens.map (·.route)).Nodup) (hnamed : ∀ s ∈ screens, s.WellNamed)
    (hslash : ∀ s ∈ screens, '/' ∉ s.route.toList) :
    ∃ g, (GraphBuilder.ofScreens lead content screens).build.1 = .ok g ∧
      ∀ s ∈ screens, ∀ given, (s.unit lead).trigger.Accepts given →
        ((s.unit lead).trigger.GivesEmpty given →
          g.resolve ((s.unit lead).trigger.route given) =
            .error (.routeNotFound ((s.unit lead).trigger.route given))) ∧
        (¬ (s.unit lead).trigger.GivesEmpty given →
          ∃ e, g.resolve ((s.unit lead).trigger.route given) = .ok e ∧
            e.route = (s.unit lead).trigger.route given ∧
            e.pattern = (s.unit lead).registration.pattern ∧
            (∀ q ∈ (s.unit lead).trigger.params,
              e.arguments.get? q.name = q.arrives? (given q.name) ∧
                e.arguments.getOf? q.type q.name = q.arrives? (given q.name)) ∧
            ∀ name, name ∉ (s.unit lead).trigger.params.map (·.name) →
              e.arguments.get? name = none) := by
  refine ⟨_, GraphBuilder.build_ofScreens hnamed (Screen.patterns_nodup hroutes hnamed hslash), ?_⟩
  intro s hs given hgiven
  have hother : ∀ d ∈ (Graph.ofScreens content screens).destinations, d ≠ s.destination content →
      d.pattern.captures? (s.trigger.route given) = none := by
    intro d hd hne
    obtain ⟨t, ht, rfl⟩ := List.mem_map.1 hd
    cases hcaptures : t.parts.captures? (s.trigger.route given) with
    | none => exact hcaptures
    | some captures =>
      have hhead := Screen.head?_of_captures? (hslash t ht) hcaptures
      rw [Screen.head?_trigger_route (hnamed s hs) (hslash s hs) given] at hhead
      have hroute : t.route = s.route := String.toList_inj.1 (Option.some.inj hhead).symm
      exact absurd (List.inj_on_of_nodup_map hroutes ht hs hroute) fun heq => hne (heq ▸ rfl)
  have hresolve := Graph.resolve_trigger (List.mem_map_of_mem hs) rfl rfl hother (hnamed s hs)
    hgiven
  refine ⟨fun hempty => hresolve.trans (if_pos hempty), fun hempty => ?_⟩
  refine ⟨_, hresolve.trans (if_neg hempty), rfl, rfl, fun q hq => ?_, fun name hname => ?_⟩
  · have hnames := (hnamed s hs).names_nodup
    exact ⟨Screen.get?_delivered hnames hq, Screen.getOf?_delivered hnames hgiven hq⟩
  · exact Screen.get?_delivered_of_not_mem hname

/-- The tour's detail screen gets what its trigger is called with. -/
theorem tour_delivers_detail :
    let given (name : String) : Option Value :=
      [("lang", .string "a/b?c"), ("ja", .string "x&y=z"), ("like", .bool true)].lookup name
    ∃ g e,
      (GraphBuilder.ofScreens defaultUnitPrefix (fun _ => ())
        (TourScreen.all.map TourScreen.screen)).build.1 = .ok g ∧
      g.resolve (TourScreen.detail.unit.trigger.route given) = .ok e ∧
      e.pattern = TourScreen.detail.screen.pattern ∧
      e.arguments.get? "lang" = some (.string "a/b?c") ∧
      e.arguments.get? "ja" = some (.string "x&y=z") ∧
      e.arguments.get? "default_test" = some (.string "yes") := by
  intro given
  obtain ⟨g, hg, hall⟩ := @trigger_delivers Unit defaultUnitPrefix (fun _ => ())
    (TourScreen.all.map TourScreen.screen) (by decide +kernel) (by decide +kernel)
    (by decide +kernel)
  obtain ⟨-, hdelivers⟩ := hall TourScreen.detail.screen (by decide) given (by decide)
  obtain ⟨e, he, -, hpattern, hparams, -⟩ := hdelivers (by decide)
  have hget (q : TriggerParam) (hq : q ∈ TourScreen.detail.unit.trigger.params) :
      e.arguments.get? q.name = q.arrives? (given q.name) := (hparams q hq).1
  refine ⟨g, e, hg, he, hpattern, ?_, ?_, ?_⟩
  · exact hget ⟨"lang", "String", .string, false, .required⟩ (by decide)
  · exact hget ⟨"ja", "Option<String>", .string, true, .absent⟩ (by decide)
  · exact hget ⟨"default_test", "String", .string, false, .literal (.string "yes")⟩ (by decide)

/-- An empty string given to a nullable parameter does not arrive. -/
theorem empty_nullable_arrives_absent :
    let screens := TourScreen.all.map TourScreen.screen
    let graph : Graph Unit := .ofScreens (fun _ => ()) screens
    let given (name : String) : Option Value :=
      [("lang", .string "en"), ("ja", .string ""), ("like", .bool true)].lookup name
    (screens.map (·.route)).Nodup ∧ (∀ s ∈ screens, s.WellNamed ∧ '/' ∉ s.route.toList) ∧
      (GraphBuilder.ofScreens defaultUnitPrefix (fun _ => ()) screens).build.1 = .ok graph ∧
      TourScreen.detail.unit.trigger.Accepts given ∧
      ¬ TourScreen.detail.unit.trigger.GivesEmpty given ∧
      given "ja" = some (.string "") ∧
      (graph.resolve (TourScreen.detail.unit.trigger.route given)).map
        (·.arguments.get? "ja") = .ok none := by
  intro screens graph given
  have hroutes : (screens.map (·.route)).Nodup := by decide +kernel
  have hnamed : ∀ s ∈ screens, s.WellNamed ∧ '/' ∉ s.route.toList := by decide +kernel
  have hpatterns := Screen.patterns_nodup hroutes (fun s hs => (hnamed s hs).1)
    fun s hs => (hnamed s hs).2
  have hbuild : (GraphBuilder.ofScreens defaultUnitPrefix (fun _ => ()) screens).build.1 =
      .ok graph := GraphBuilder.build_ofScreens (fun s hs => (hnamed s hs).1) hpatterns
  exact ⟨hroutes, hnamed, hbuild, by decide +kernel, by decide +kernel, rfl, by decide +kernel⟩

end ScreenRoutes
