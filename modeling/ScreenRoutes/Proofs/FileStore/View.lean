import ScreenRoutes.FileStore.Basic
import ScreenRoutes.Proofs.Text.Percent

/-!
# Views of file stores

A view of a store tells to which place a path leads and which bytes stand at a place. A store is
faithful to a view when reading tells what the view shows, making directories changes no file, and
a write that succeeds leaves the bytes of its text at the place of its path, and every other place
alone. Paths may come to lead somewhere when directories are made, but those that lead somewhere
lead there for good.

What writing a file comes to follows for every faithful store: `Faithful.of_writeIfChanged`.
-/

namespace ScreenRoutes

open Text

/-- What writing a file comes to by the text that was there: created without one, updated over
another one, and unchanged over the same. -/
def WriteStatus.over (contents : String) : Option String → WriteStatus
  | none => .created
  | some old => if old = contents then .unchanged else .updated

namespace FileStore

/-- What a state of a store shows. -/
structure View (σ Place : Type) where
  place? : σ → String → Option Place
  bytes? : σ → Place → Option (List UInt8)

variable {σ Place : Type}

namespace View

def textAt? (v : View σ Place) (s : σ) (f : Place) : Option String :=
  (v.bytes? s f).bind textOf?

/-- The text of the file that a path leads to. -/
def text? (v : View σ Place) (s : σ) (path : String) : Option String :=
  (v.place? s path).bind (v.textAt? s)

/-- What leads somewhere leads there still, and no file changed but those at `places`. -/
structure Keeps (v : View σ Place) (places : List Place) (s s' : σ) : Prop where
  place {path : String} {f : Place} : v.place? s path = some f → v.place? s' path = some f
  bytes {f : Place} : f ∉ places → v.bytes? s' f = v.bytes? s f

/-- The path leads to a file of exactly this text. -/
structure Stands (v : View σ Place) (s : σ) (path contents : String) (f : Place) : Prop where
  place : v.place? s path = some f
  bytes : v.bytes? s f = some (utf8Bytes contents)

/-- The operations of `files` do what the view shows. -/
structure Faithful (v : View σ Place) (files : FileStore (StateM σ)) : Prop where
  read (s : σ) (path : String) : (files.read path).run s = (v.text? s path, s)
  makeDirs (s : σ) (path : String) : v.Keeps [] s ((files.makeDirs path).run s).2
  write {s s' : σ} {path contents : String} :
    (files.write path contents).run s = (true, s') →
      ∃ f, v.Stands s' path contents f ∧ v.Keeps [f] s s'

/-- From `s` to `s'` the path denotes the file at `f`: it leads there in the end, and did so from
the start unless there was no such file. A path in and out of a directory that is yet to be made
thus denotes no file that is there already, though it will lead to one. -/
structure Denotes (v : View σ Place) (s s' : σ) (path : String) (f : Place) : Prop where
  place : v.place? s' path = some f
  known : v.place? s path = some f ∨ v.bytes? s f = none

section

variable {v : View σ Place} {s s₁ s' : σ} {places others : List Place} {path contents : String}
  {f : Place}

/-! ## What is kept -/

theorem Keeps.refl (v : View σ Place) (places : List Place) (s : σ) : v.Keeps places s s :=
  ⟨id, fun _ => rfl⟩

theorem Keeps.trans (h : v.Keeps places s s₁) (h' : v.Keeps others s₁ s') :
    v.Keeps (places ++ others) s s' where
  place hf := h'.place (h.place hf)
  bytes hf := by
    rw [List.mem_append, not_or] at hf
    rw [h'.bytes hf.2, h.bytes hf.1]

theorem Stands.text? (h : v.Stands s path contents f) : v.text? s path = some contents := by
  rw [View.text?, h.place, Option.bind_some, textAt?, h.bytes, Option.bind_some, textOf?_utf8Bytes]

theorem stands_of_text? (h : v.text? s path = some contents) :
    ∃ f, v.Stands s path contents f := by
  obtain ⟨f, hf, h⟩ := Option.bind_eq_some_iff.1 h
  obtain ⟨bytes, hbytes, h⟩ := Option.bind_eq_some_iff.1 h
  exact ⟨f, hf, by rw [hbytes, eq_utf8Bytes_of_textOf? h]⟩

theorem Stands.keeps (h : v.Stands s path contents f) (hk : v.Keeps places s s')
    (hf : f ∉ places) : v.Stands s' path contents f :=
  ⟨hk.place h.place, (hk.bytes hf).trans h.bytes⟩

/-! ## What paths denote -/

/-- What a path that denotes a file reads as at first is the text of that file. -/
theorem Denotes.text? (h : v.Denotes s s' path f) (hk : v.Keeps places s s') :
    v.text? s path = v.textAt? s f := by
  rcases h.known with hf | hnone
  · rw [View.text?, hf, Option.bind_some]
  · rw [View.text?]
    cases hf : v.place? s path with
    | none => rw [Option.bind_none, textAt?, hnone, Option.bind_none]
    | some g =>
      obtain rfl : g = f := Option.some.inj ((hk.place hf).symm.trans h.place)
      rw [Option.bind_some]

/-- A path denotes its file from any later state on, if the file is as it was. -/
theorem Denotes.later (h : v.Denotes s s' path f) (hk : v.Keeps places s s₁) (hf : f ∉ places) :
    v.Denotes s₁ s' path f :=
  ⟨h.place, h.known.imp hk.place (hk.bytes hf).trans⟩

/-- The places to which paths lead in the end are those that they denote. -/
theorem filterMap_place? {paths : List String} {place : String → Place}
    (h : ∀ p ∈ paths, v.Denotes s s' p (place p)) :
    paths.filterMap (v.place? s') = paths.map place := by
  induction paths with
  | nil => rfl
  | cons p paths ih =>
    rw [List.forall_mem_cons] at h
    rw [List.filterMap_cons_some h.1.place, ih h.2, List.map_cons]

end

end View

/-! ## Writing a file -/

theorem exists_of_run_bind {α β : Type} {x : StateM σ α} {k : α → StateM σ β} {b : β} {s s' : σ}
    (h : (x >>= k).run s = (b, s')) :
    ∃ a s₁, x.run s = (a, s₁) ∧ (k a).run s₁ = (b, s') :=
  ⟨_, _, rfl, h⟩

namespace View.Faithful

variable {files : FileStore (StateM σ)} {v : View σ Place} {s s' : σ} {path contents : String}

theorem of_makeParents (hv : v.Faithful files) {result : Except WriteFault Unit}
    (h : (files.makeParents path).run s = (result, s')) : v.Keeps [] s s' := by
  rw [makeParents] at h
  split at h
  · obtain ⟨-, rfl⟩ := Prod.mk.inj h
    exact .refl v [] s
  · next parent _ =>
    obtain ⟨made, s₁, hmade, h⟩ := exists_of_run_bind h
    have hkeeps := hv.makeDirs s parent
    rw [hmade] at hkeeps
    cases made <;> obtain ⟨-, rfl⟩ := Prod.mk.inj h <;> exact hkeeps

theorem of_writeWithParents (hv : v.Faithful files)
    (h : (files.writeWithParents path contents).run s = (.ok (), s')) :
    ∃ f, v.Stands s' path contents f ∧ v.Keeps [f] s s' := by
  rw [writeWithParents] at h
  obtain ⟨made, s₁, hmade, h⟩ := exists_of_run_bind h
  cases made with
  | error fault => cases (Prod.mk.inj h).1
  | ok =>
    obtain ⟨written, s₂, hwrite, h⟩ := exists_of_run_bind h
    cases written with
    | false => cases (Prod.mk.inj h).1
    | true =>
      obtain ⟨-, rfl⟩ := Prod.mk.inj h
      obtain ⟨f, hf, hkeeps⟩ := hv.write hwrite
      exact ⟨f, hf, (hv.of_makeParents hmade).trans hkeeps⟩

/-- **A file that is written unless it has the contents already** has them afterwards, no other file
changed, and the status tells what was there. -/
theorem of_writeIfChanged (hv : v.Faithful files) {status : WriteStatus}
    (h : (files.writeIfChanged path contents).run s = (.ok status, s')) :
    status = .over contents (v.text? s path) ∧
      ∃ f, v.Stands s' path contents f ∧ v.Keeps [f] s s' := by
  -- What a write reports is the status that was decided on before it.
  have written {status' : WriteStatus}
      (h : (do return (← files.writeWithParents path contents).map fun () => status' :
        StateM σ (Except WriteFault WriteStatus)).run s = (.ok status, s')) :
      status = status' ∧ ∃ f, v.Stands s' path contents f ∧ v.Keeps [f] s s' := by
    obtain ⟨result, s₁, hwrite, h⟩ := exists_of_run_bind h
    obtain ⟨hstatus, rfl⟩ := Prod.mk.inj h
    cases result with
    | error fault => cases hstatus
    | ok => exact ⟨(Except.ok.inj hstatus).symm, hv.of_writeWithParents hwrite⟩
  rw [writeIfChanged] at h
  obtain ⟨old?, s₁, hread, h⟩ := exists_of_run_bind h
  obtain ⟨hold, rfl⟩ := Prod.mk.inj ((hv.read s path).symm.trans hread)
  rw [hold]
  cases old? with
  | none => exact written h
  | some old =>
    rw [WriteStatus.over]
    dsimp only at h
    split at h
    · next heq =>
      obtain ⟨hstatus, rfl⟩ := Prod.mk.inj h
      obtain ⟨f, hf⟩ := stands_of_text? hold
      rw [if_pos heq]
      exact ⟨(Except.ok.inj hstatus).symm, f, heq ▸ hf, .refl v [f] s⟩
    · next hne =>
      rw [if_neg hne]
      exact written h

end View.Faithful

end FileStore

end ScreenRoutes
