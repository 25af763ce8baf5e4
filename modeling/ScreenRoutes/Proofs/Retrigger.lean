import ScreenRoutes.Proofs.Delivery

/-!
# Sending again what was resolved

A route may spell its arguments in many ways. Whatever it resolves to can be sent again by the
screen's trigger and arrives unchanged: decoding never yields a value that the trigger cannot
express (`delivered_of_decodeArguments`). A part of the path is not empty, so neither is a required
string, and a nullable argument is the empty string only where that is its default.
-/

namespace ScreenRoutes

open Text

variable {κ : Type}

/-! ## Values that decoding yields -/

/-- A text that is not empty gives no empty string to an argument without a default. -/
theorem Argument.valueOf_ne_empty {a : Argument} {route text : String} {v : Option Value}
    (htext : text ≠ "") (hnullable : a.nullable = false)
    (hv : a.valueOf route (some text) = .ok v) : v ≠ some (.string "") := by
  rintro rfl
  rcases valueOf_eq_ok_iff.1 hv with ⟨t, w, hpresent, hread, hw⟩ | ⟨habsent, -, -⟩
  · rw [present?_of_not_nullable hnullable] at hpresent
    obtain rfl := Option.some.inj hpresent
    obtain rfl := Option.some.inj hw
    have htype : a.type = .string := (ArgType.type_of_read? hread).symm
    rw [htype] at hread
    exact htext (Value.string.inj (Option.some.inj hread))
  · rw [present?_of_not_nullable hnullable] at habsent
    cases habsent

namespace Screen

variable {s : Screen}

/-- What the screen's pattern takes belongs to arguments of the screen. -/
theorem mem_arguments_of_captures? {route : String} {captures : Captures}
    (h : s.parts.captures? route = some captures) {name : String}
    (hname : name ∈ captures.map (·.1)) : name ∈ s.registration.arguments.map (·.name) := by
  rw [mem_registration_arguments_names, ← names_parts]
  exact (Pattern.captures?_names_sublist h).subset hname

/-- A required argument takes a text that is not empty. -/
theorem exists_capture_of_required {route : String} {captures decoded : Captures}
    (hcaptures : s.parts.captures? route = some captures)
    (hdecoded : decodeCaptures route captures = .ok decoded) {p : Parameter} (hp : p ∈ s.required) :
    ∃ text, decoded.lookup p.name = some text ∧ text ≠ "" := by
  have hname : p.name ∈ s.parts.segments.filterMap Segment.name? := by
    rw [parts, List.filterMap_append, List.mem_append]
    exact .inr (List.mem_filterMap.2 ⟨_, List.mem_map_of_mem hp, rfl⟩)
  obtain ⟨raw, hraw, hne⟩ := Pattern.exists_capture hcaptures hname
  obtain ⟨text, htext, hlookup⟩ := lookup_decodeCaptures hdecoded hraw
  exact ⟨text, hlookup, ne_empty_of_decode? htext hne⟩

/-- **A bundle that was read for a screen can be given to its trigger, which delivers it.** -/
theorem delivered_of_decodeArguments (h : s.WellNamed) {route : String} {captures : Captures}
    {b : Bundle} (hcaptures : s.parts.captures? route = some captures)
    (hdecode : decodeArguments s.registration.arguments route captures = .ok b) :
    s.trigger.Accepts b.get? ∧ ¬ s.trigger.GivesEmpty b.get? ∧ s.delivered b.get? = b := by
  have hnodup := s.registration_arguments_nodup h.names_nodup
  have hdistinct : (captures.map (·.1)).Nodup := by
    refine List.Nodup.sublist (Pattern.captures?_names_sublist hcaptures) ?_
    rw [names_parts]
    exact carried_names_nodup h.names_nodup
  obtain ⟨decoded, value, hdecoded, hvalue, rfl⟩ :=
    (decodeArguments_eq_ok_iff hnodup hdistinct).1 hdecode
  have hget : ∀ a ∈ s.registration.arguments,
      (bundleOf s.registration.arguments value decoded).get? a.name = value a :=
    fun a ha => get?_bundleOf hnodup value decoded ha
  refine ⟨fun q hq => ?_, ?_, ?_⟩
  · obtain ⟨p, hp, a, hpa⟩ := exists_yields_of_mem_params hq
    have ha := mem_arguments_of_yields hp hpa
    rw [← hpa.name_eq, hget a ha]
    exact (hpa.arrives?_of_valueOf (hvalue a ha)).1
  · rintro ⟨q, hq, hdefault, hgiven⟩
    obtain ⟨p, hp, a, hpa⟩ := exists_yields_of_mem_params hq
    have ha := mem_arguments_of_yields hp hpa
    rw [← hpa.name_eq, hget a ha] at hgiven
    have hrequired := hpa.isRequired_iff.2 hdefault
    obtain ⟨text, hlookup, hne⟩ := exists_capture_of_required hcaptures hdecoded
      (mem_required.2 ⟨(mem_routable.1 hp).1, hrequired⟩)
    have hva := hvalue a ha
    rw [hpa.argument_name, hlookup] at hva
    exact Argument.valueOf_ne_empty hne (hpa.not_nullable_of_isRequired hrequired) hva hgiven
  · have hdeclared : ∀ name ∈ decoded.map (·.1), name ∈ s.registration.arguments.map (·.name) := by
      rw [names_decodeCaptures hdecoded]
      exact fun name hname => mem_arguments_of_captures? hcaptures hname
    rw [delivered, bundleOf_of_declared hdeclared]
    rw [bundleOf_of_declared hdeclared] at hget
    refine bundleOf_congr (fun a ha => ?_) []
    obtain ⟨p, hp, q, hpa⟩ := exists_yields_of_mem_arguments ha
    rw [arrives?_eq h.names_nodup hp hpa, ← hpa.name_eq, hget a ha]
    exact (hpa.arrives?_of_valueOf (hvalue a ha)).2

end Screen

/-! ## Sending again -/

/-- **Sending again what was resolved arrives unchanged.** In the graph of a single screen, whatever
a route resolves to can be given to the screen's trigger, and the route sent then resolves to the
same arguments, however the first route was spelled. -/
theorem retrigger_stable {s : Screen} (h : s.WellNamed) (lead : String) (content : κ) :
    ∃ g, (GraphBuilder.empty.register (s.unit lead) content).build.1 = .ok g ∧
      ∀ route e, g.resolve route = .ok e →
        (s.unit lead).trigger.Accepts e.arguments.get? ∧
        ∃ e', g.resolve ((s.unit lead).trigger.route e.arguments.get?) = .ok e' ∧
          e'.pattern = e.pattern ∧ e'.arguments = e.arguments := by
  have hbuild : (GraphBuilder.ofScreens lead (fun _ => content) [s]).build.1 =
      .ok (Graph.ofScreens (fun _ => content) [s]) :=
    GraphBuilder.build_ofScreens (List.forall_mem_singleton.2 h) (List.nodup_singleton _)
  rw [GraphBuilder.ofScreens_singleton] at hbuild
  refine ⟨_, hbuild, fun route e hresolve => ?_⟩
  obtain ⟨d, captures, b, hmatch, hdecode, rfl⟩ := Graph.resolve_eq_ok_iff.1 hresolve
  obtain ⟨hd, hcaptures⟩ := Graph.mem_of_match? hmatch
  obtain rfl : d = s.destination fun _ => content := List.mem_singleton.1 hd
  obtain ⟨hgiven, hempty, hdelivered⟩ := Screen.delivered_of_decodeArguments h hcaptures hdecode
  have hagain := Graph.resolve_trigger hd rfl rfl
    (fun d' hd' hne => absurd (List.mem_singleton.1 hd') hne) h hgiven
  exact ⟨hgiven, _, hagain.trans (if_neg hempty), rfl, hdelivered⟩

/-- A route with an escape that it does not need, a repeated key, an entry without a value, and a
number with a sign resolves to arguments that arrive again. -/
theorem retrigger_stable_odd :
    let graph : Graph Unit := .ofScreens (fun _ => ()) [TourScreen.odd.screen]
    let arguments : Bundle :=
      ⟨[("type", .string "ab"), ("in", .string "a&b=c?/%"), ("empty", .string ""), ("low", .int 5),
        ("fn", .bool false)]⟩
    TourScreen.odd.screen.WellNamed ∧
    (graph.resolve "odd/%61b?low=+05&empty&low=7&fn=false").map (·.arguments) = .ok arguments ∧
    (graph.resolve (TourScreen.odd.unit.trigger.route arguments.get?)).map (·.arguments) =
      .ok arguments := by
  intro graph arguments
  have hnamed : TourScreen.odd.screen.WellNamed := by decide +kernel
  have hresolve : graph.resolve "odd/%61b?low=+05&empty&low=7&fn=false" =
      .ok ⟨"odd/%61b?low=+05&empty&low=7&fn=false", TourScreen.odd.screen.pattern, arguments⟩ := by
    decide +kernel
  obtain ⟨g, hg, hstable⟩ := retrigger_stable hnamed defaultUnitPrefix ()
  obtain rfl : g = graph := Except.ok.inj (hg.symm.trans rfl)
  obtain ⟨-, e, he, -, harguments⟩ := hstable _ _ hresolve
  refine ⟨hnamed, by rw [hresolve]; rfl, ?_⟩
  have hroute : graph.resolve (TourScreen.odd.unit.trigger.route arguments.get?) = .ok e := he
  rw [hroute, Except.map, harguments]

end ScreenRoutes
