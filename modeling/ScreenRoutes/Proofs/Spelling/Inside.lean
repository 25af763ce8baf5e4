import ScreenRoutes.Proofs.Spelling.Reading

/-!
# Inside a group

What a group holds may be told by what stands in front of it. Then trees inside may change that stay
elsewhere, so what is taken there is related to the whole group, with what remains still behind it.
-/

namespace ScreenRoutes

open Reading Tokens

/-- Whether a group may hold the second trees for the first ones behind whatever leads to it. -/
def RespellsInside (Leads : Tokens → Prop) (d : Delimiter) (ts us : Tokens) : Prop :=
  ∀ lead, Leads lead → ∀ behind, Respells behind (lead ++ [.group d ts]) (lead ++ [.group d us])

/-- Whether what was taken from the inside of a group is spelled as the given trees. -/
def TookInside (Leads : Tokens → Prop) (d : Delimiter) (s : Progress) (written : Tokens)
    (t : Progress) : Prop :=
  t.leftover = none → s.leftover = none ∧ RespellsInside Leads d s.rest (written ++ t.rest)

variable {Leads : Tokens → Prop} {d : Delimiter} {s t u : Progress} {ts us : Tokens}

theorem RespellsInside.refl (ts : Tokens) : RespellsInside Leads d ts ts :=
  fun _ _ _ => .refl _ _

theorem RespellsInside.trans {vs : Tokens} (h : RespellsInside Leads d ts us)
    (hmore : RespellsInside Leads d us vs) : RespellsInside Leads d ts vs :=
  fun lead hlead behind => (h lead hlead behind).trans (hmore lead hlead behind)

/-- Trees inside may always be spelled in another way. -/
theorem Respells.inside (h : Respells [] ts us) : RespellsInside Leads d ts us :=
  fun lead _ _ => .append_left lead (.group d h)

namespace TookInside

theorem refl (s : Progress) : TookInside Leads d s [] s :=
  fun h => ⟨h, .refl _⟩

theorem append (h : TookInside Leads d s ts t) (hmore : Took t us u) :
    TookInside Leads d s (ts ++ us) u := by
  intro hu
  obtain ⟨ht, taken, htaken, hspells⟩ := hmore hu
  obtain ⟨hs, hinside⟩ := h ht
  refine ⟨hs, hinside.trans (.inside ?_)⟩
  rw [htaken, List.append_assoc]
  refine .append_left ts (.append_right u.rest ?_)
  rw [List.append_nil]
  exact hspells

theorem respell (h : TookInside Leads d s ts t)
    (hspells : RespellsInside Leads d (ts ++ t.rest) (us ++ t.rest)) :
    TookInside Leads d s us t :=
  fun ht => (h ht).imp_right fun hinside => hinside.trans hspells

end TookInside

namespace Reading

variable {α : Type}

/-- A group of which the inside is written as it is taken is so behind what leads to it. -/
theorem ensures_inside_behind {p : Reading α} {written : α → Tokens}
    (hp : ∀ s, p.Ensures s fun a t => TookInside Leads d s (written a) t) (s : Progress) :
    (inside d p).Ensures s fun a t => ∀ {r : Progress} {front lead : Tokens}, Leads lead →
      Took r (front ++ lead) s → Took r (front ++ lead ++ [.group d (written a)]) t := by
  refine (ensures_inside d p s).mono ?_
  rintro a t ⟨content, u, hrest, hu, hleftover⟩ r front lead hlead hfront ht
  rw [hleftover] at ht
  obtain ⟨hu', hend⟩ := orElse_unread_eq_none.1 ht
  obtain ⟨hs, hinside⟩ := hp _ a u hu hu'
  rw [List.isEmpty_iff.1 hend, List.append_nil] at hinside
  obtain ⟨hr, taken, htaken, hspells⟩ := hfront hs
  refine ⟨hr, taken ++ [.group d content], by rw [htaken, hrest]; simp, ?_⟩
  rw [hrest] at hspells
  refine (Respells.append_right [.group d content] hspells).trans ?_
  rw [List.append_assoc, List.append_assoc]
  exact .append_left front (hinside lead hlead _)

end Reading

end ScreenRoutes
