import ScreenRoutes.Proofs.Decoding
import ScreenRoutes.Proofs.Pattern.Matching

/-!
# Building graphs and resolving routes

A builder makes a graph exactly where no pattern is registered twice and every pattern can be read
(`build_eq_ok_iff`), with a destination for each registration, in order. A route resolves through
the first destination that it matches (`find_eq_ok_iff`); where its captures have names of their
own, the bundle is the one of `readArguments_eq_ok_iff` (`decodeArguments_eq_ok_iff`).
-/

namespace ScreenRoutes

open Text

variable {κ : Type}

/-! ## Building -/

/-- Whether a destination is what a registration asks for. -/
structure Destination.ComesFrom (d : Destination κ) (r : Registered κ) : Prop where
  parse_eq : Pattern.parse r.pattern = .ok d.pattern
  arguments_eq : d.arguments = r.arguments
  content_eq : d.content = r.content

theorem Destination.ComesFrom.text_eq {d : Destination κ} {r : Registered κ} (h : d.ComesFrom r) :
    d.pattern.text = r.pattern :=
  Pattern.text_of_parse h.parse_eq

theorem buildDestinations_eq_ok_iff {seen : List String} {rs : List (Registered κ)}
    {ds : List (Destination κ)} :
    buildDestinations seen rs = .ok ds ↔
      (rs.map (·.pattern)).Nodup ∧ (∀ r ∈ rs, r.pattern ∉ seen) ∧
        List.Forall₂ (fun r d => d.ComesFrom r) rs ds := by
  induction rs generalizing seen ds with
  | nil => simp [buildDestinations, eq_comm]
  | cons r rs ih =>
    rw [buildDestinations, List.map_cons, List.nodup_cons, List.forall_mem_cons,
      List.forall₂_cons_left_iff]
    split
    · next hseen => simp [hseen]
    · next hseen =>
      cases hparse : Pattern.parse r.pattern with
      | error fault =>
        simp only [reduceCtorEq, false_iff]
        rintro ⟨-, -, d, ds, hd, -⟩
        rw [hd.parse_eq] at hparse
        cases hparse
      | ok p =>
        have hsplit : (∀ r' ∈ rs, r'.pattern ∉ r.pattern :: seen) ↔
            r.pattern ∉ rs.map (·.pattern) ∧ ∀ r' ∈ rs, r'.pattern ∉ seen := by
          simp only [List.mem_cons, not_or, List.mem_map, not_exists, not_and, ← forall_and]
        constructor
        · intro h
          cases hrest : buildDestinations (r.pattern :: seen) rs with
          | error e => simp [hrest, Except.map] at h
          | ok rest =>
            simp only [hrest, Except.map, Except.ok.injEq] at h
            obtain ⟨hnodup, hfresh, hall⟩ := ih.1 hrest
            obtain ⟨hnew, hold⟩ := hsplit.1 hfresh
            exact ⟨⟨hnew, hnodup⟩, ⟨hseen, hold⟩, _, rest, ⟨hparse, rfl, rfl⟩, hall, h.symm⟩
        · rintro ⟨⟨hnew, hnodup⟩, ⟨-, hold⟩, ⟨p', arguments, content⟩, rest, hd, hall, rfl⟩
          obtain ⟨hp, rfl, rfl⟩ := hd
          obtain rfl := Except.ok.inj (hparse.symm.trans hp)
          rw [ih.2 ⟨hnodup, hsplit.2 ⟨hnew, hold⟩, hall⟩]
          rfl

theorem exists_of_mem_of_forall₂ {α β : Type} {R : α → β → Prop} {as : List α} {bs : List β}
    (h : List.Forall₂ R as bs) {b : β} (hb : b ∈ bs) : ∃ a ∈ as, R a b := by
  induction h with
  | nil => cases hb
  | cons hhead _ ih =>
    rcases List.mem_cons.1 hb with rfl | hb
    · exact ⟨_, List.mem_cons_self, hhead⟩
    · obtain ⟨a, ha, hab⟩ := ih hb
      exact ⟨a, List.mem_cons_of_mem _ ha, hab⟩

namespace GraphBuilder

/-- **A graph is built exactly where patterns are registered once and can be read.** -/
theorem build_eq_ok_iff {b : GraphBuilder κ} {g : Graph κ} :
    b.build.1 = .ok g ↔
      (b.pending.map (·.pattern)).Nodup ∧
        List.Forall₂ (fun r d => d.ComesFrom r) b.pending g.destinations ∧ g.start = b.start := by
  have hbuild (ds : List (Destination κ)) : buildDestinations [] b.pending = .ok ds ↔
      (b.pending.map (·.pattern)).Nodup ∧
        List.Forall₂ (fun r d => d.ComesFrom r) b.pending ds := by
    simp [buildDestinations_eq_ok_iff]
  rw [build]
  split
  · next e he =>
    simp only [reduceCtorEq, false_iff]
    rintro ⟨hnodup, hall, -⟩
    rw [(hbuild _).2 ⟨hnodup, hall⟩] at he
    cases he
  · next ds hds =>
    obtain ⟨destinations, start⟩ := g
    simp only [Except.ok.injEq, Graph.mk.injEq, ← and_assoc, ← hbuild, hds]
    rw [eq_comm (a := b.start)]

variable {b : GraphBuilder κ} {g : Graph κ} (h : b.build.1 = .ok g)
include h

theorem exists_registered {d : Destination κ} (hd : d ∈ g.destinations) :
    ∃ r ∈ b.pending, d.ComesFrom r :=
  exists_of_mem_of_forall₂ (build_eq_ok_iff.1 h).2.1 hd

/-- Of the destinations of a graph only that of a registration has its pattern. -/
theorem comesFrom_of_text_eq {r : Registered κ} (hr : r ∈ b.pending) {d : Destination κ}
    (hd : d ∈ g.destinations) (htext : d.pattern.text = r.pattern) : d.ComesFrom r := by
  obtain ⟨r', hr', hd'⟩ := exists_registered h hd
  have hnodup := (build_eq_ok_iff.1 h).1
  obtain rfl := List.inj_on_of_nodup_map hnodup hr' hr (hd'.text_eq.symm.trans htext)
  exact hd'

end GraphBuilder

/-! ## Matching -/

namespace Graph

theorem mem_of_match? {g : Graph κ} {route : String} {d : Destination κ} {captures : Captures}
    (h : g.match? route = some (d, captures)) :
    d ∈ g.destinations ∧ d.pattern.captures? route = some captures := by
  obtain ⟨d', hd', hc⟩ := List.exists_of_findSome?_eq_some h
  obtain ⟨captures', hcaptures, heq⟩ := Option.map_eq_some_iff.1 hc
  obtain ⟨rfl, rfl⟩ := Prod.mk.inj heq
  exact ⟨hd', hcaptures⟩

/-- A route that no other destination matches is left to the one that is. -/
theorem match?_of_forall_ne {g : Graph κ} {route : String} {d : Destination κ}
    (hd : d ∈ g.destinations)
    (hother : ∀ d' ∈ g.destinations, d' ≠ d → d'.pattern.captures? route = none) :
    g.match? route = (d.pattern.captures? route).map (d, ·) := by
  cases hcaptures : d.pattern.captures? route with
  | none =>
    rw [match?, Option.map_none, List.findSome?_eq_none_iff]
    intro d' hd'
    rw [Option.map_eq_none_iff]
    by_cases heq : d' = d
    · rw [heq, hcaptures]
    · exact hother d' hd' heq
  | some captures =>
    rw [match?, Option.map_some]
    obtain ⟨before, after, hsplit, hbefore⟩ := List.eq_append_cons_of_mem hd
    rw [List.findSome?_eq_some_iff]
    refine ⟨before, d, after, hsplit, by rw [hcaptures, Option.map_some], fun d' hd' => ?_⟩
    rw [Option.map_eq_none_iff]
    refine hother d' (hsplit ▸ List.mem_append_left _ hd') ?_
    rintro rfl
    exact hbefore hd'

/-! ## Resolving -/

theorem find_eq_ok_iff {g : Graph κ} {route : String} {e : Entry} {content : κ} :
    g.find route = .ok (e, content) ↔
      ∃ d captures b, g.match? route = some (d, captures) ∧
        decodeArguments d.arguments route captures = .ok b ∧
          e = ⟨route, d.pattern.text, b⟩ ∧ content = d.content := by
  rw [find]
  split
  · next hnone => simp [hnone]
  · next d captures hsome =>
    rw [hsome]
    split
    · next hdecode => simp [hdecode]
    · next b hdecode =>
      simp only [Except.ok.injEq, Prod.mk.injEq, Option.some.injEq]
      constructor
      · rintro ⟨rfl, rfl⟩
        exact ⟨d, captures, b, ⟨rfl, rfl⟩, hdecode, rfl, rfl⟩
      · rintro ⟨_, _, b', ⟨rfl, rfl⟩, hdecode', rfl, rfl⟩
        obtain rfl := Except.ok.inj (hdecode.symm.trans hdecode')
        exact ⟨rfl, rfl⟩

theorem resolve_eq_ok_iff {g : Graph κ} {route : String} {e : Entry} :
    g.resolve route = .ok e ↔
      ∃ d captures b, g.match? route = some (d, captures) ∧
        decodeArguments d.arguments route captures = .ok b ∧ e = ⟨route, d.pattern.text, b⟩ := by
  have hfind : g.resolve route = .ok e ↔ ∃ content, g.find route = .ok (e, content) := by
    rw [resolve]
    cases g.find route with
    | error e' => simp [Except.map]
    | ok result => simp [Except.map, Prod.ext_iff]
  simp [hfind, find_eq_ok_iff]

theorem resolve_of_match?_eq_none {g : Graph κ} {route : String} (h : g.match? route = none) :
    g.resolve route = .error (.routeNotFound route) := by
  rw [resolve, find, h]
  rfl

end Graph

/-- What decoding comes to where captures have names of their own. -/
theorem decodeArguments_eq_ok_iff {arguments : List Argument} {route : String}
    {captures : Captures} {b : Bundle} (hnames : (arguments.map (·.name)).Nodup)
    (hcaptures : (captures.map (·.1)).Nodup) :
    decodeArguments arguments route captures = .ok b ↔
      ∃ decoded value, decodeCaptures route captures = .ok decoded ∧
        (∀ a ∈ arguments, a.valueOf route (decoded.lookup a.name) = .ok (value a)) ∧
          b = bundleOf arguments value decoded := by
  rw [decodeArguments]
  split
  · next hdecode => simp [hdecode]
  · next decoded hdecode =>
    rw [readArguments_eq_ok_iff hnames (names_decodeCaptures hdecode ▸ hcaptures)]
    simp [hdecode]

end ScreenRoutes
