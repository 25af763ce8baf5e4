import ScreenRoutes.Text.Percent

/-!
# Percent encoding and back

Decoding undoes encoding (`decode?_encode`), and it leaves a text without `%` as it is
(`decode?_of_plain`). An encoded text holds unreserved characters and `%` only, so none of the
characters with a meaning in a route. A text that is not empty neither encodes nor decodes to an
empty one: an argument cannot get lost on its way.
-/

namespace ScreenRoutes.Text

/-! ## UTF-8 -/

theorem byteArray_mk_toArray (bytes : List UInt8) :
    ByteArray.mk bytes.toArray = bytes.toByteArray := by
  ext1
  rw [List.data_toByteArray]

theorem utf8Decode?_encode (cs : List Char) :
    utf8Decode? (cs.flatMap String.utf8EncodeChar) = some cs := by
  have h : ByteArray.mk (cs.flatMap String.utf8EncodeChar).toArray = cs.utf8Encode :=
    byteArray_mk_toArray _
  rw [utf8Decode?, h, List.utf8Decode?_utf8Encode]
  rfl

/-- Bytes that decode are the UTF-8 form of what they decode to. -/
theorem eq_flatMap_of_utf8Decode? {bytes : List UInt8} {cs : List Char}
    (h : utf8Decode? bytes = some cs) : bytes = cs.flatMap String.utf8EncodeChar := by
  rw [utf8Decode?, byteArray_mk_toArray, Option.map_eq_some_iff] at h
  obtain ⟨chars, hchars, rfl⟩ := h
  obtain ⟨l, hl⟩ := ByteArray.isSome_utf8Decode?_iff.1 (Option.isSome_of_mem hchars)
  rw [hl, List.utf8Decode?_utf8Encode, Option.some.injEq] at hchars
  subst hchars
  exact List.toByteArray_inj.1 hl

/-- Only the empty list of bytes is the UTF-8 form of the empty text. -/
theorem bytes_eq_nil_of_utf8Decode? {bytes : List UInt8} (h : utf8Decode? bytes = some []) :
    bytes = [] :=
  eq_flatMap_of_utf8Decode? h

def utf8Bytes (text : String) : List UInt8 :=
  text.toList.flatMap String.utf8EncodeChar

/-- The text whose UTF-8 form the bytes are. -/
def textOf? (bytes : List UInt8) : Option String :=
  (utf8Decode? bytes).map String.ofList

@[simp] theorem textOf?_utf8Bytes (text : String) : textOf? (utf8Bytes text) = some text := by
  rw [textOf?, utf8Bytes, utf8Decode?_encode, Option.map_some, String.ofList_toList]

theorem eq_utf8Bytes_of_textOf? {bytes : List UInt8} {text : String}
    (h : textOf? bytes = some text) : bytes = utf8Bytes text := by
  obtain ⟨cs, hcs, rfl⟩ := Option.map_eq_some_iff.1 h
  rw [utf8Bytes, String.toList_ofList, eq_flatMap_of_utf8Decode? hcs]

/-! ## Hexadecimal digits -/

theorem hexValue?_hexUpper : ∀ n < 16, hexValue? (hexUpper n) = some n := by
  decide

theorem isUnreserved_hexUpper : ∀ n < 16, isUnreserved (hexUpper n) = true := by
  decide

/-! ## Bytes of an encoded text -/

theorem percentBytes_percentByte (b : UInt8) (rest : List Char) :
    percentBytes (percentByte b ++ rest) = b :: percentBytes rest := by
  have hb : b.toNat < 256 := b.toNat_lt
  have hhigh : b.toNat / 16 < 16 := by omega
  have hlow : b.toNat % 16 < 16 := by omega
  have hsum : 16 * (b.toNat / 16) + b.toNat % 16 = b.toNat := by omega
  simp only [percentByte, List.cons_append, List.nil_append, percentBytes,
    hexValue?_hexUpper _ hhigh, hexValue?_hexUpper _ hlow, hsum, UInt8.ofNat_toNat]

theorem percentBytes_flatMap_percentByte (bytes : List UInt8) (rest : List Char) :
    percentBytes (bytes.flatMap percentByte ++ rest) = bytes ++ percentBytes rest := by
  induction bytes with
  | nil => rfl
  | cons b bytes ih =>
    rw [List.flatMap_cons, List.append_assoc, percentBytes_percentByte, ih, List.cons_append]

theorem percentBytes_cons {c : Char} (h : c ≠ '%') (rest : List Char) :
    percentBytes (c :: rest) = String.utf8EncodeChar c ++ percentBytes rest := by
  rw [percentBytes]
  rintro _ _ _ rfl
  exact absurd rfl h

theorem percentBytes_of_plain {cs : List Char} (h : '%' ∉ cs) :
    percentBytes cs = cs.flatMap String.utf8EncodeChar := by
  induction cs with
  | nil => rfl
  | cons c cs ih =>
    rw [List.mem_cons, not_or] at h
    rw [percentBytes_cons (Ne.symm h.1), ih h.2, List.flatMap_cons]

theorem percentBytes_percentChar (c : Char) (rest : List Char) :
    percentBytes (percentChar c ++ rest) = String.utf8EncodeChar c ++ percentBytes rest := by
  rw [percentChar]
  split
  · next h =>
    have hc : c ≠ '%' := by rintro rfl; simp [isUnreserved] at h
    exact percentBytes_cons hc rest
  · exact percentBytes_flatMap_percentByte _ rest

theorem percentBytes_percentEncode (cs : List Char) :
    percentBytes (percentEncode cs) = cs.flatMap String.utf8EncodeChar := by
  induction cs with
  | nil => rfl
  | cons c cs ih =>
    rw [percentEncode, List.flatMap_cons, percentBytes_percentChar]
    rw [percentEncode] at ih
    rw [ih, List.flatMap_cons]

/-! ## Decoding -/

/-- **Decoding undoes encoding.** -/
@[simp] theorem decode?_encode (s : String) : decode? (encode s) = some s := by
  rw [decode?, encode, String.toList_ofList, percentDecode?, percentBytes_percentEncode,
    utf8Decode?_encode, Option.map_some, String.ofList_toList]

theorem decode?_of_plain {s : String} (h : '%' ∉ s.toList) : decode? s = some s := by
  rw [decode?, percentDecode?, percentBytes_of_plain h, utf8Decode?_encode, Option.map_some,
    String.ofList_toList]

theorem percentBytes_ne_nil {cs : List Char} (h : cs ≠ []) : percentBytes cs ≠ [] := by
  fun_cases percentBytes cs with
  | case1 => exact absurd rfl h
  | case2 a b rest x y hx hy => simp
  | case3 a b rest => simp
  | case4 c rest => simp

/-- **A piece of a route that is not empty carries a text that is not empty.** -/
theorem ne_empty_of_decode? {raw text : String} (h : decode? raw = some text) (hraw : raw ≠ "") :
    text ≠ "" := by
  rintro rfl
  rw [decode?, Option.map_eq_some_iff] at h
  obtain ⟨cs, hcs, hempty⟩ := h
  obtain rfl : cs = [] := by simpa using congrArg String.toList hempty
  refine percentBytes_ne_nil ?_ (bytes_eq_nil_of_utf8Decode? hcs)
  simpa using hraw

/-! ## Characters of an encoded text -/

theorem mem_percentChar {c x : Char} (h : x ∈ percentChar c) : isUnreserved x ∨ x = '%' := by
  rw [percentChar] at h
  split at h
  · next hc =>
    obtain rfl := List.mem_singleton.1 h
    exact .inl hc
  · obtain ⟨b, -, hx⟩ := List.mem_flatMap.1 h
    have hb : b.toNat < 256 := b.toNat_lt
    simp only [percentByte, List.mem_cons, List.not_mem_nil, or_false] at hx
    rcases hx with rfl | rfl | rfl
    · exact .inr rfl
    · exact .inl (isUnreserved_hexUpper _ (by omega))
    · exact .inl (isUnreserved_hexUpper _ (by omega))

/-- A character that is neither unreserved nor `%` does not occur in an encoded text. -/
theorem not_mem_encode {x : Char} (hx : isUnreserved x = false) (hp : x ≠ '%') (s : String) :
    x ∉ (encode s).toList := by
  rw [encode, String.toList_ofList, percentEncode, List.mem_flatMap]
  rintro ⟨c, -, hc⟩
  rcases mem_percentChar hc with h | h
  · simp [hx] at h
  · exact hp h

@[simp] theorem encode_eq_empty_iff {s : String} : encode s = "" ↔ s = "" := by
  constructor
  · intro h
    have hd := decode?_encode s
    rw [h] at hd
    exact Option.some.inj (hd.symm.trans (decode?_of_plain (by simp)))
  · rintro rfl
    rfl

end ScreenRoutes.Text
