import PolarPortal.Schema

/-!
# The `application/x-www-form-urlencoded` format

`URLSearchParams.toString()` and a browser posting a form both write a list of names and values
in this format: each name and value is UTF-8 encoded, a space becomes `+`, the bytes `*-._`,
digits and ASCII letters stay as they are, and every other byte becomes `%` and two uppercase
hexadecimal digits; the pairs are written `name=value` and joined by `&` (`formSerialize`).

`formDecode` reads the format back the way a server parses a query or a form body: split on
`&`, drop empty pieces, split each piece at its first `=`, read `+` as a space and decode the
percent escapes.  `formDecode_formSerialize` is the round trip: a server decodes exactly the
UTF-8 bytes of every name and value that was serialized.  `formSerialize_chars` bounds what the
serializer writes: unreserved characters and `+`, `%`, `=`, `&`, so that its output is ASCII and
can stand in a URL as it is.

A browser posting a form first normalizes the newlines of every name and value: a CR not
followed by LF, and an LF not preceded by CR, become CRLF (`normalizeNewlines`).  `formSubmit`
is the body it posts, and `formDecode_formSubmit` what a server reads of it.
-/

namespace PolarPortal

/-- The UTF-8 encoding of a string: the bytes of `s.toUTF8`. -/
def utf8Bytes (s : String) : List UInt8 :=
  s.data.flatMap String.utf8EncodeChar

/-- The bytes the serializer leaves as they are: `*`, `-`, `.`, `_`, digits and ASCII letters. -/
def isUnreserved (n : Nat) : Bool :=
  n = 0x2A || n = 0x2D || n = 0x2E || n = 0x5F || (0x30 ≤ n && n ≤ 0x39) ||
    (0x41 ≤ n && n ≤ 0x5A) || (0x61 ≤ n && n ≤ 0x7A)

/-- An uppercase hexadecimal digit. -/
def hexDigit (n : Nat) : Char :=
  if n < 10 then Char.ofNat (0x30 + n) else Char.ofNat (0x37 + n)

/-- The value of a hexadecimal digit of either case. -/
def hexValue (c : Char) : Option Nat :=
  if '0' ≤ c ∧ c ≤ '9' then some (c.toNat - 0x30)
  else if 'A' ≤ c ∧ c ≤ 'F' then some (c.toNat - 0x37)
  else if 'a' ≤ c ∧ c ≤ 'f' then some (c.toNat - 0x57)
  else none

/-- One byte as the serializer writes it. -/
def encodeByte (b : UInt8) : List Char :=
  if b = 0x20 then ['+']
  else if isUnreserved b.toNat then [Char.ofNat b.toNat]
  else ['%', hexDigit (b.toNat / 16), hexDigit (b.toNat % 16)]

/-- A name or a value as the serializer writes it. -/
def formEncode (s : String) : List Char :=
  (utf8Bytes s).flatMap encodeByte

/-- One pair as the serializer writes it: `name=value`. -/
def encodePiece (p : String × String) : List Char :=
  formEncode p.1 ++ '=' :: formEncode p.2

/-- The urlencoded serializer: the pairs joined by `&`. -/
def formSerialize (params : List (String × String)) : List Char :=
  ['&'].intercalate (params.map encodePiece)

/-- The newline normalization of a form's names and values: a CR not followed by LF, and an
LF not preceded by CR, become CRLF. -/
def normalizeNewlines : List Char → List Char
  | [] => []
  | '\r' :: '\n' :: rest => '\r' :: '\n' :: normalizeNewlines rest
  | '\r' :: rest => '\r' :: '\n' :: normalizeNewlines rest
  | '\n' :: rest => '\r' :: '\n' :: normalizeNewlines rest
  | c :: rest => c :: normalizeNewlines rest

/-- The body a browser posts for a form's entries: the names and values with their newlines
normalized, urlencoded. -/
def formSubmit (entries : List (String × String)) : List Char :=
  formSerialize (entries.map fun e =>
    (⟨normalizeNewlines e.1.data⟩, ⟨normalizeNewlines e.2.data⟩))

/-- Percent-decoding of a name or a value, `+` read as a space: a `%` not followed by two
hexadecimal digits stands for itself, and any other character for its UTF-8 bytes. -/
def decodeBytes : List Char → List UInt8
  | [] => []
  | c :: rest =>
    if c = '+' then 0x20 :: decodeBytes rest
    else if c = '%' then
      match rest with
      | h :: l :: rest' =>
        match hexValue h, hexValue l with
        | some a, some b => (16 * a + b).toUInt8 :: decodeBytes rest'
        | _, _ => 0x25 :: decodeBytes (h :: l :: rest')
      | [h] => 0x25 :: decodeBytes [h]
      | [] => [0x25]
    else String.utf8EncodeChar c ++ decodeBytes rest

/-- A piece split at its first `=`; a piece without one is a name with an empty value. -/
def splitAtEquals (piece : List Char) : List Char × List Char :=
  (piece.takeWhile (· != '='), (piece.dropWhile (· != '=')).drop 1)

/-- One piece read back as a name and a value; an empty piece is skipped. -/
def decodePiece (piece : List Char) : Option (List UInt8 × List UInt8) :=
  if piece = [] then none
  else some (decodeBytes (splitAtEquals piece).1, decodeBytes (splitAtEquals piece).2)

/-- The urlencoded parser: the names and values as bytes. -/
def formDecode (input : List Char) : List (List UInt8 × List UInt8) :=
  (input.splitOn '&').filterMap decodePiece

/-! ## Decoding one escape -/

theorem decodeBytes_plus (rest : List Char) : decodeBytes ('+' :: rest) = 0x20 :: decodeBytes rest := by
  rw [decodeBytes.eq_def]
  simp

theorem decodeBytes_percent {h l : Char} {a b : Nat} (ha : hexValue h = some a)
    (hb : hexValue l = some b) (rest : List Char) :
    decodeBytes ('%' :: h :: l :: rest) = (16 * a + b).toUInt8 :: decodeBytes rest := by
  simp [decodeBytes, ha, hb]

theorem decodeBytes_other {c : Char} (hplus : c ≠ '+') (hpercent : c ≠ '%') (rest : List Char) :
    decodeBytes (c :: rest) = String.utf8EncodeChar c ++ decodeBytes rest := by
  rw [decodeBytes.eq_def]
  simp [hplus, hpercent]

theorem hexValue_hexDigit : ∀ n < 16, hexValue (hexDigit n) = some n := by
  decide

/-- An unreserved byte is written as the ASCII character it encodes, which is none of the
format's special characters. -/
theorem unreserved_char : ∀ n < 0x7B, isUnreserved n = true →
    Char.ofNat n ∉ ['+', '%', '&', '='] ∧ String.utf8EncodeChar (Char.ofNat n) = [n.toUInt8] := by
  decide

theorem isUnreserved_lt {n : Nat} (h : isUnreserved n = true) : n < 0x7B := by
  simp only [isUnreserved, Bool.or_eq_true, Bool.and_eq_true, decide_eq_true_eq] at h
  omega

theorem toUInt8_toNat (b : UInt8) : b.toNat.toUInt8 = b :=
  UInt8.toNat.inj (UInt8.toNat_ofNat_of_lt b.toBitVec.isLt)

/-- The step of the round trip: the decoder reads back the byte at the head of its input. -/
theorem decodeBytes_encodeByte (b : UInt8) (rest : List Char) :
    decodeBytes (encodeByte b ++ rest) = b :: decodeBytes rest := by
  unfold encodeByte
  split_ifs with hspace hunres
  · rw [hspace]; exact decodeBytes_plus rest
  · obtain ⟨hc, hutf⟩ := unreserved_char _ (isUnreserved_lt hunres) hunres
    simp only [List.mem_cons, not_or] at hc
    rw [List.singleton_append, decodeBytes_other hc.1 hc.2.1, hutf, toUInt8_toNat]
    rfl
  · have hlt : b.toNat < 256 := b.toBitVec.isLt
    rw [List.cons_append, List.cons_append, List.singleton_append,
      decodeBytes_percent (hexValue_hexDigit _ (by omega)) (hexValue_hexDigit _ (by omega)),
      Nat.div_add_mod, toUInt8_toNat]

theorem decodeBytes_flatMap_encodeByte (bs : List UInt8) :
    decodeBytes (bs.flatMap encodeByte) = bs := by
  induction bs with
  | nil => rfl
  | cons b bs ih => rw [List.flatMap_cons, decodeBytes_encodeByte, ih]

/-! ## The serializer's alphabet -/

theorem hexDigit_unreserved : ∀ n < 16, isUnreserved (hexDigit n).toNat = true := by
  decide

theorem toNat_charOfNat {n : Nat} (h : n < 0xD800) : (Char.ofNat n).toNat = n := by
  rw [Char.ofNat, dif_pos (Or.inl h)]
  rfl

/-- A byte is written with unreserved characters, `+` and `%` only. -/
theorem encodeByte_chars {b : UInt8} {c : Char} (hc : c ∈ encodeByte b) :
    isUnreserved c.toNat = true ∨ c = '+' ∨ c = '%' := by
  unfold encodeByte at hc
  split_ifs at hc with hspace hunres
  · exact .inr (.inl (List.mem_singleton.1 hc))
  · have hlt := isUnreserved_lt hunres
    rw [List.mem_singleton.1 hc, toNat_charOfNat (by omega)]
    exact .inl hunres
  · have hlt : b.toNat < 256 := b.toBitVec.isLt
    simp only [List.mem_cons, List.mem_singleton, List.not_mem_nil, or_false] at hc
    rcases hc with rfl | rfl | rfl
    · exact .inr (.inr rfl)
    · exact .inl (hexDigit_unreserved _ (by omega))
    · exact .inl (hexDigit_unreserved _ (by omega))

theorem formEncode_chars {s : String} {c : Char} (hc : c ∈ formEncode s) :
    isUnreserved c.toNat = true ∨ c = '+' ∨ c = '%' := by
  obtain ⟨b, -, hb⟩ := List.mem_flatMap.1 hc
  exact encodeByte_chars hb

/-- So a serialized name or value holds neither of the separators. -/
theorem formEncode_ne {s : String} {c : Char} (hc : c ∈ formEncode s) : c ≠ '&' ∧ c ≠ '=' := by
  rcases formEncode_chars hc with h | rfl | rfl
  · constructor <;> rintro rfl <;> exact absurd h (by decide)
  · decide
  · decide

theorem mem_intercalate_amp {c : Char} : ∀ {pieces : List (List Char)},
    c ∈ ['&'].intercalate pieces → c = '&' ∨ ∃ piece ∈ pieces, c ∈ piece
  | [], h => by simp [List.intercalate] at h
  | [piece], h => .inr ⟨piece, List.mem_singleton_self _, by simpa [List.intercalate] using h⟩
  | piece :: piece' :: pieces, h => by
    simp only [List.intercalate, List.intersperse_cons₂, List.flatten_cons, List.mem_append,
      List.mem_singleton] at h
    rcases h with h | h | h
    · exact .inr ⟨piece, List.mem_cons_self _ _, h⟩
    · exact .inl h
    · exact (@mem_intercalate_amp c (piece' :: pieces) h).imp_right
        fun ⟨q, hq, hc⟩ => ⟨q, List.mem_cons_of_mem _ hq, hc⟩

/-- A character of a serialization is a separator or a character of an encoded name or value. -/
theorem mem_formSerialize {params : List (String × String)} {c : Char}
    (hc : c ∈ formSerialize params) : c = '&' ∨ c = '=' ∨ ∃ s, c ∈ formEncode s := by
  rcases mem_intercalate_amp hc with h | ⟨piece, hpiece, hc⟩
  · exact .inl h
  obtain ⟨p, -, rfl⟩ := List.mem_map.1 hpiece
  rcases List.mem_append.1 hc with h | h
  · exact .inr (.inr ⟨_, h⟩)
  · exact .inr ((List.mem_cons.1 h).imp_right fun h => ⟨_, h⟩)

/-- The serializer writes only unreserved characters and `+`, `%`, `=` and `&`: its output is
ASCII, holds no space, `#` or `?`, and stands in a URL's query as it is. -/
theorem formSerialize_chars (params : List (String × String)) :
    ∀ c ∈ formSerialize params, isUnreserved c.toNat = true ∨ c ∈ ['+', '%', '=', '&'] := by
  intro c hc
  rcases mem_formSerialize hc with rfl | rfl | ⟨s, hs⟩
  · simp
  · simp
  · exact (formEncode_chars hs).imp_right fun h => by rcases h with rfl | rfl <;> simp

theorem formSerialize_chars_returnTo :
    '%' ∈ formSerialize [("return_to", "/dashboard")] ∧
      (isUnreserved '%'.toNat = true ∨ '%' ∈ ['+', '%', '=', '&']) :=
  ⟨by decide, formSerialize_chars [("return_to", "/dashboard")] '%' (by decide)⟩

/-- No `#` occurs in a serialization, so in a URL a fragment can start only after it. -/
theorem hash_not_mem_formSerialize (params : List (String × String)) :
    '#' ∉ formSerialize params := fun hc => by
  rcases mem_formSerialize hc with h | h | ⟨s, hs⟩
  · revert h; decide
  · revert h; decide
  · rcases formEncode_chars hs with h | h | h <;> revert h <;> decide

/-! ## The round trip -/

theorem splitAtEquals_append {xs : List Char} (h : '=' ∉ xs) (ys : List Char) :
    splitAtEquals (xs ++ '=' :: ys) = (xs, ys) := by
  induction xs with
  | nil => simp [splitAtEquals]
  | cons x xs ih =>
    have hx : (x != '=') = true := bne_iff_ne.2 fun e => h (e ▸ List.mem_cons_self x xs)
    have ih := ih (fun hm => h (List.mem_cons_of_mem _ hm))
    simp only [splitAtEquals, Prod.mk.injEq] at ih ⊢
    simp only [List.cons_append, List.takeWhile_cons, List.dropWhile_cons, hx, if_true]
    exact ⟨congrArg _ ih.1, ih.2⟩

theorem decodePiece_encodePiece (p : String × String) :
    decodePiece (encodePiece p) = some (utf8Bytes p.1, utf8Bytes p.2) := by
  rw [decodePiece, if_neg (by simp [encodePiece]), encodePiece,
    splitAtEquals_append (fun hm => (formEncode_ne hm).2 rfl)]
  simp only [formEncode, decodeBytes_flatMap_encodeByte]

/-- The separator `&` never occurs inside a serialized pair. -/
theorem amp_not_mem_encodePiece (p : String × String) : '&' ∉ encodePiece p := by
  simp only [encodePiece, List.mem_append, List.mem_cons, not_or]
  exact ⟨fun h => (formEncode_ne h).1 rfl, by decide, fun h => (formEncode_ne h).1 rfl⟩

/-- A server reads back, byte for byte, every name and value that was serialized. -/
theorem formDecode_formSerialize (params : List (String × String)) :
    formDecode (formSerialize params) = params.map fun p => (utf8Bytes p.1, utf8Bytes p.2) := by
  cases params with
  | nil => rfl
  | cons p ps =>
    have hsep : ∀ piece ∈ (p :: ps).map encodePiece, '&' ∉ piece := by
      simp only [List.mem_map]
      rintro _ ⟨q, -, rfl⟩
      exact amp_not_mem_encodePiece q
    rw [formDecode, formSerialize, List.splitOn_intercalate _ '&' hsep (by simp), List.filterMap_map,
      ← List.filterMap_eq_map]
    exact congrArg (List.filterMap · _) (funext decodePiece_encodePiece)

/-! ## Form submission -/

/-- Text without CR or LF is submitted as it is. -/
theorem normalizeNewlines_of_forall :
    ∀ {cs : List Char}, (∀ c ∈ cs, c ≠ '\r' ∧ c ≠ '\n') → normalizeNewlines cs = cs
  | [], _ => rfl
  | c :: rest, h => by
    obtain ⟨hr, hn⟩ := h c (List.mem_cons_self _ _)
    rw [normalizeNewlines.eq_5 c rest (fun _ h => absurd h hr) hr hn,
      normalizeNewlines_of_forall fun x hx => h x (List.mem_cons_of_mem _ hx)]

/-- A server reads back every name and value of a posted form, with its newlines normalized. -/
theorem formDecode_formSubmit (entries : List (String × String)) :
    formDecode (formSubmit entries) = entries.map fun e =>
      (utf8Bytes ⟨normalizeNewlines e.1.data⟩, utf8Bytes ⟨normalizeNewlines e.2.data⟩) := by
  rw [formSubmit, formDecode_formSerialize, List.map_map]
  rfl

end PolarPortal
