import ScreenRoutes.Proofs.Text.Decimal
import ScreenRoutes.Proofs.Text.Percent
import ScreenRoutes.TriggerCall

/-!
# Values on their way through a route

A value is sent as a text (`Value.sent`), decoded to its plain text (`decode?_sent`), and read back
under its type (`read?_text`). Nothing with a meaning of its own in a route is ever sent, and only
the empty string is sent as nothing.
-/

namespace ScreenRoutes

open Text

theorem ArgType.type_of_read? {t : ArgType} {text : String} {v : Value}
    (h : t.read? text = some v) : v.type = t := by
  cases t with
  | string =>
    obtain rfl := Option.some.inj h
    rfl
  | int =>
    obtain ⟨n, -, rfl⟩ := Option.map_eq_some_iff.1 h
    rfl
  | bool =>
    simp only [ArgType.read?] at h
    split at h
    · obtain rfl := Option.some.inj h
      rfl
    · split at h
      · obtain rfl := Option.some.inj h
        rfl
      · cases h

namespace Value

/-- **A value's text reads back under its type.** -/
@[simp] theorem read?_text (v : Value) : v.type.read? v.text = some v := by
  cases v with
  | string s => rfl
  | int n =>
    show (readInt32? (intText n).toList).map Value.int = some (.int n)
    rw [intText, String.toList_ofList, readInt32?_printInt, Option.map_some]
  | bool b => cases b <;> rfl

@[simp] theorem text_eq_empty_iff {v : Value} : v.text = "" ↔ v = .string "" := by
  cases v with
  | string s => simp [text]
  | int n =>
    have h : intText n ≠ "" := by simp [intText, printInt_ne_nil]
    simp [text, h]
  | bool b => cases b <;> simp [text, boolText]

/-! ## What is sent -/

/-- A number or truth value is sent as unreserved characters only. -/
theorem isUnreserved_of_mem_text {v : Value} (h : v.type ≠ .string) {x : Char}
    (hx : x ∈ v.text.toList) : isUnreserved x := by
  cases v with
  | string s => exact absurd rfl h
  | int n =>
    rw [text, intText, String.toList_ofList] at hx
    rcases mem_printInt hx with hdigit | rfl
    · simp [isUnreserved, Char.isAlphanum, hdigit]
    · rfl
  | bool b =>
    have hall : (boolText b).toList.all isUnreserved := by cases b <;> decide
    exact List.all_eq_true.1 hall x hx

theorem sent_of_ne_string {v : Value} (h : v.type ≠ .string) : v.sent = v.text := by
  cases v with
  | string s => exact absurd rfl h
  | int n => rfl
  | bool b => rfl

/-- A character that is neither unreserved nor `%` is never sent. -/
theorem not_mem_sent {x : Char} (hx : isUnreserved x = false) (hp : x ≠ '%') (v : Value) :
    x ∉ v.sent.toList := by
  by_cases h : v.type = .string
  · cases v with
    | string s => exact not_mem_encode hx hp s
    | int n => cases h
    | bool b => cases h
  · rw [sent_of_ne_string h]
    intro hmem
    simp [isUnreserved_of_mem_text h hmem] at hx

/-- **What is sent decodes to the value's text.** -/
@[simp] theorem decode?_sent (v : Value) : decode? v.sent = some v.text := by
  by_cases h : v.type = .string
  · cases v with
    | string s => exact decode?_encode s
    | int n => cases h
    | bool b => cases h
  · rw [sent_of_ne_string h]
    exact decode?_of_plain fun hmem => absurd (isUnreserved_of_mem_text h hmem) (by decide)

@[simp] theorem sent_eq_empty_iff {v : Value} : v.sent = "" ↔ v = .string "" := by
  by_cases h : v.type = .string
  · cases v with
    | string s => simp [sent]
    | int n => cases h
    | bool b => cases h
  · rw [sent_of_ne_string h, text_eq_empty_iff]

end Value

end ScreenRoutes
