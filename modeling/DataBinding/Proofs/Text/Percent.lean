import DataBinding.Text.Percent
import Mathlib.Data.List.Basic

/-!
# Percent encoding and back

An encoded text holds unreserved characters, all of them ASCII, and bytes as triples of a percent sign
and two capital hexadecimal digits. Decoding it gives the text again: each triple is read as the byte it
was written for, whatever follows, and the bytes of a character come together in their order.

Decoding walks the characters of a text. It is the same walk over the bytes of its UTF-8: a percent sign
is one byte that no other character has among its bytes, and neither are the digits.

Results:

* `isEncoded_encode`: what encoding writes.
* `decode?_encode`: decoding gives the encoded text again.
* `decode?_eq_unescape?`: decoding as a walk over bytes.
* `component_roundTrip`: the first two, and a decoded text is decoded again from its encoding.
-/

namespace DataBinding.Text.Percent

/-! ## What encoding writes -/

/-- The capital hexadecimal digits. -/
def upperHexDigits : List Char := "0123456789ABCDEF".toList

/-- A text of unreserved characters and of triples with capital digits. -/
inductive IsEncoded : List Char → Prop where
  | nil : IsEncoded []
  | unreserved {c : Char} {cs : List Char} (h : isUnreserved c = true) (hcs : IsEncoded cs) :
    IsEncoded (c :: cs)
  | byte {high low : Char} {cs : List Char} (hh : high ∈ upperHexDigits) (hl : low ∈ upperHexDigits)
    (hcs : IsEncoded cs) : IsEncoded ('%' :: high :: low :: cs)

theorem upperHexDigit_spec : ∀ n < 16, upperHexDigit n ∈ upperHexDigits ∧
    Decimal.digitValue? 16 (upperHexDigit n) = some n := by
  decide

theorem div_sixteen_lt (b : UInt8) : b.toNat / 16 < 16 := by
  have := b.toNat_lt
  omega

theorem mod_sixteen_lt (b : UInt8) : b.toNat % 16 < 16 := Nat.mod_lt _ (by decide)

theorem IsEncoded.append_triples {bytes : List UInt8} {cs : List Char} (hcs : IsEncoded cs) :
    IsEncoded (bytes.flatMap triple ++ cs) := by
  induction bytes with
  | nil => exact hcs
  | cons b rest ih =>
    exact .byte (upperHexDigit_spec _ (div_sixteen_lt b)).1 (upperHexDigit_spec _ (mod_sixteen_lt b)).1 ih

theorem isEncoded_flatMap (cs : List Char) : IsEncoded (cs.flatMap encodeChar) := by
  induction cs with
  | nil => exact .nil
  | cons c rest ih =>
    rw [List.flatMap_cons, encodeChar]
    split
    · exact .unreserved ‹_› ih
    · exact ih.append_triples

/-- An encoded text holds unreserved characters and triples. -/
theorem isEncoded_encode (s : String) : IsEncoded (encode s).toList := by
  rw [encode, String.toList_ofList]
  exact isEncoded_flatMap _

theorem toNat_lt_of_isUnreserved {c : Char} (h : isUnreserved c = true) : c.toNat < 0x80 := by
  -- letters and digits come before the end of their range
  have before {d : Char} (hd : d.toNat < 0x80) (hle : c.val ≤ d.val) : c.toNat < 0x80 :=
    Nat.lt_of_le_of_lt hle hd
  rw [isUnreserved, Bool.or_eq_true] at h
  rcases h with h | h
  · rcases Bool.or_eq_true_iff.1 h with hletter | hdigit
    · rcases Bool.or_eq_true_iff.1 hletter with hupper | hlower
      · exact before (d := 'Z') (by decide) (of_decide_eq_true hupper).2
      · exact before (d := 'z') (by decide) (of_decide_eq_true (Bool.and_eq_true_iff.1 hlower).2)
    · exact before (d := '9') (by decide) (of_decide_eq_true (Bool.and_eq_true_iff.1 hdigit).2)
  · have marks : ("-_.!~*'()".toList.all fun d => decide (d.toNat < 0x80)) = true := by decide
    exact of_decide_eq_true (List.all_eq_true.1 marks c (List.contains_iff_mem.1 h))

/-- Every character of an encoded text is ASCII. -/
theorem IsEncoded.toNat_lt {cs : List Char} (h : IsEncoded cs) : ∀ c ∈ cs, c.toNat < 0x80 := by
  have all : (upperHexDigits.all fun d => decide (d.toNat < 0x80)) = true := by decide
  have digits : ∀ d ∈ upperHexDigits, d.toNat < 0x80 := fun d hd =>
    of_decide_eq_true (List.all_eq_true.1 all d hd)
  induction h with
  | nil => simp
  | unreserved hc _ ih => exact List.forall_mem_cons.2 ⟨toNat_lt_of_isUnreserved hc, ih⟩
  | byte hh hl _ ih =>
    exact List.forall_mem_cons.2 ⟨by decide,
      List.forall_mem_cons.2 ⟨digits _ hh, List.forall_mem_cons.2 ⟨digits _ hl, ih⟩⟩⟩

/-! ## Decoding what encoding writes -/

theorem ne_percent_of_isUnreserved {c : Char} (h : isUnreserved c = true) : c ≠ '%' := by
  rintro rfl
  revert h
  decide

theorem byteOfDigits?_upperHexDigit (b : UInt8) :
    byteOfDigits? (upperHexDigit (b.toNat / 16)) (upperHexDigit (b.toNat % 16)) = some b := by
  rw [byteOfDigits?, (upperHexDigit_spec _ (div_sixteen_lt b)).2,
    (upperHexDigit_spec _ (mod_sixteen_lt b)).2]
  show some (UInt8.ofNat (16 * (b.toNat / 16) + b.toNat % 16)) = some b
  rw [Nat.div_add_mod, UInt8.ofNat_toNat]

/-- A triple stands for its byte, whatever follows. -/
theorem decodeBytes?_triple (b : UInt8) (rest : List Char) :
    decodeBytes? (triple b ++ rest) = (decodeBytes? rest).map (b :: ·) := by
  rw [triple, List.cons_append, List.cons_append, List.cons_append, List.nil_append, decodeBytes?,
    if_pos rfl, byteOfDigits?_upperHexDigit]
  cases decodeBytes? rest <;> rfl

theorem decodeBytes?_triples (bytes : List UInt8) (rest : List Char) :
    decodeBytes? (bytes.flatMap triple ++ rest) = (decodeBytes? rest).map (bytes ++ ·) := by
  induction bytes with
  | nil => simp
  | cons b more ih =>
    rw [List.flatMap_cons, List.append_assoc, decodeBytes?_triple, ih, Option.map_map]
    rfl

/-- An encoded character stands for its bytes, whatever follows. -/
theorem decodeBytes?_encodeChar (c : Char) (rest : List Char) :
    decodeBytes? (encodeChar c ++ rest) =
      (decodeBytes? rest).map (String.utf8EncodeChar c ++ ·) := by
  rw [encodeChar]
  split
  · exact decodeBytes?_cons_of_ne (ne_percent_of_isUnreserved ‹_›) rest
  · exact decodeBytes?_triples _ rest

/-- The bytes of an encoded text are those of the text. -/
theorem decodeBytes?_flatMap_encodeChar (cs : List Char) :
    decodeBytes? (cs.flatMap encodeChar) = some (cs.flatMap String.utf8EncodeChar) := by
  induction cs with
  | nil => rfl
  | cons c rest ih =>
    rw [List.flatMap_cons, decodeBytes?_encodeChar, ih, List.flatMap_cons, Option.map_some]

theorem fromUTF8?_toByteArray (s : String) : String.fromUTF8? s.toByteArray = some s := by
  rw [String.fromUTF8?, dif_pos s.isValidUTF8]
  rfl

/-- Decoding gives the encoded text again. -/
theorem decode?_encode (s : String) : decode? (encode s) = some s := by
  have bytes : ⟨(s.toList.flatMap String.utf8EncodeChar).toArray⟩ = s.toByteArray := by
    rw [← List.data_toByteArray]
    exact String.utf8Encode_toList
  rw [decode?, encode, String.toList_ofList, decodeBytes?_flatMap_encodeChar, Option.bind_some, bytes]
  exact fromUTF8?_toByteArray s

/-! ## Decoding byte by byte -/

/-- The byte of two bytes that are hexadecimal digits. -/
def byteOfDigitBytes? (high low : UInt8) : Option UInt8 :=
  byteOfDigits? (Char.ofNat high.toNat) (Char.ofNat low.toNat)

/-- The bytes that the bytes of an encoded text stand for; none if a percent sign stands without its two
    digits. -/
def unescape? : List UInt8 → Option (List UInt8)
  | [] => some []
  | b :: rest =>
    if b = 0x25 then
      match rest with
      | high :: low :: more => do
        let d ← byteOfDigitBytes? high low
        let bytes ← unescape? more
        return d :: bytes
      | _ => none
    else (unescape? rest).map (b :: ·)

/-- The bytes of a character: one that is its number, or only such that are no ASCII. -/
theorem utf8EncodeChar_cases (c : Char) :
    (c.toNat < 0x80 ∧ String.utf8EncodeChar c = [UInt8.ofNat c.toNat]) ∨
    (0x80 ≤ c.toNat ∧ ∃ b b' more, String.utf8EncodeChar c = b :: b' :: more ∧
      ∀ x ∈ b :: b' :: more, 0x80 ≤ x.toNat) := by
  have hc : c.toNat = c.val.toNat := rfl
  rw [String.utf8EncodeChar.eq_1, hc]
  split
  · exact .inl ⟨by omega, rfl⟩
  refine .inr ⟨by omega, ?_⟩
  split
  · exact ⟨_, _, _, rfl, by simp; omega⟩
  split
  · exact ⟨_, _, _, rfl, by simp; omega⟩
  · exact ⟨_, _, _, rfl, by simp; omega⟩

theorem unescape?_append {bytes : List UInt8} (h : ∀ b ∈ bytes, b ≠ 0x25) (rest : List UInt8) :
    unescape? (bytes ++ rest) = (unescape? rest).map (bytes ++ ·) := by
  induction bytes with
  | nil => simp
  | cons b more ih =>
    obtain ⟨hb, hmore⟩ := List.forall_mem_cons.1 h
    rw [List.cons_append, unescape?.eq_def]
    simp only [hb, ↓reduceIte]
    rw [ih hmore, Option.map_map]
    rfl

/-- A character that is no percent sign has none among its bytes. -/
theorem ne_percent_of_mem_utf8EncodeChar {c : Char} (h : c ≠ '%') :
    ∀ b ∈ String.utf8EncodeChar c, b ≠ 0x25 := by
  rintro b hb rfl
  rcases utf8EncodeChar_cases c with ⟨hc, he⟩ | ⟨-, b', b'', more, he, hge⟩
  · rw [he, List.mem_singleton] at hb
    refine h (Char.toNat_inj.1 ?_)
    have := congrArg UInt8.toNat hb
    rw [UInt8.toNat_ofNat_of_lt' (Nat.lt_trans hc (by decide))] at this
    exact this.symm
  · rw [he] at hb
    exact absurd (hge _ hb) (by decide)

theorem digitValue?_of_le {c : Char} (h : 0x80 ≤ c.toNat) : Decimal.digitValue? 16 c = none := by
  have hle : ∀ d : Char, d.toNat < 0x80 → ¬ c ≤ d := by
    intro d hd hcd
    have : c.toNat ≤ d.toNat := hcd
    omega
  have hdigit : c.isDigit = false := by
    rw [Char.isDigit, Bool.and_eq_false_iff]
    exact .inr (decide_eq_false (hle '9' (by decide)))
  simp [Decimal.digitValue?, hdigit, hle 'z' (by decide), hle 'Z' (by decide)]

theorem toNat_ofNat_byte (b : UInt8) : (Char.ofNat b.toNat).toNat = b.toNat := by
  have hb : b.toNat.isValidChar := .inl (Nat.lt_trans b.toNat_lt (by decide))
  rw [Char.ofNat, dif_pos hb]
  rfl

/-- Two characters are no digits unless both are ASCII. -/
theorem byteOfDigits?_eq_none {high low : Char} (h : 0x80 ≤ high.toNat ∨ 0x80 ≤ low.toNat) :
    byteOfDigits? high low = none := by
  rw [byteOfDigits?]
  rcases h with h | h
  · rw [digitValue?_of_le h]
    rfl
  · rw [digitValue?_of_le h]
    cases Decimal.digitValue? 16 high <;> rfl

theorem byteOfDigitBytes?_eq_none {high low : UInt8} (h : 0x80 ≤ high.toNat ∨ 0x80 ≤ low.toNat) :
    byteOfDigitBytes? high low = none :=
  byteOfDigits?_eq_none (by rwa [toNat_ofNat_byte, toNat_ofNat_byte])

theorem ofNat_toNat_ofNat {c : Char} (h : c.toNat < 0x80) :
    Char.ofNat (UInt8.ofNat c.toNat).toNat = c := by
  rw [UInt8.toNat_ofNat_of_lt' (Nat.lt_trans h (by decide)), Char.ofNat_toNat]

/-- A percent sign and what follows it, read from bytes. -/
theorem unescape?_percent (rest : List Char) (ih : ∀ high low more, rest = high :: low :: more →
      unescape? (more.flatMap String.utf8EncodeChar) = decodeBytes? more) :
    unescape? (0x25 :: rest.flatMap String.utf8EncodeChar) = decodeBytes? ('%' :: rest) := by
  -- no character that is no ASCII is a digit, and none of its bytes is one
  cases rest with
  | nil => rfl
  | cons high rest =>
    rw [List.flatMap_cons]
    rcases utf8EncodeChar_cases high with ⟨hh, hhe⟩ | ⟨hh, b, b', more, hhe, hge⟩
    · rw [hhe]
      cases rest with
      | nil => rfl
      | cons low more =>
        rw [List.flatMap_cons]
        rcases utf8EncodeChar_cases low with ⟨hl, hle⟩ | ⟨hl, b, b', bytes, hle, hge⟩
        · rw [hle]
          show (do
            let d ← byteOfDigitBytes? (UInt8.ofNat high.toNat) (UInt8.ofNat low.toNat)
            let bytes ← unescape? (more.flatMap String.utf8EncodeChar)
            return d :: bytes) = _
          rw [byteOfDigitBytes?, ofNat_toNat_ofNat hh, ofNat_toNat_ofNat hl, ih _ _ _ rfl]
          rfl
        · rw [hle]
          show (byteOfDigitBytes? (UInt8.ofNat high.toNat) b).bind _ =
            (byteOfDigits? high low).bind _
          rw [byteOfDigitBytes?_eq_none (.inr (hge b List.mem_cons_self)),
            byteOfDigits?_eq_none (.inr hl)]
          rfl
    · rw [hhe]
      show (byteOfDigitBytes? b b').bind _ = _
      rw [byteOfDigitBytes?_eq_none (.inl (hge b List.mem_cons_self))]
      cases rest with
      | nil => rfl
      | cons low more =>
        show none = (byteOfDigits? high low).bind _
        rw [byteOfDigits?_eq_none (.inl hh)]
        rfl

/-- Decoding the bytes of the characters is decoding the characters. -/
theorem unescape?_flatMap_utf8EncodeChar (cs : List Char) :
    unescape? (cs.flatMap String.utf8EncodeChar) = decodeBytes? cs := by
  induction cs using decodeBytes?.induct with
  | case1 => rfl
  | case2 high low more ih =>
    refine unescape?_percent _ fun high' low' more' he => ?_
    cases he
    exact ih
  | case3 rest hshort => exact unescape?_percent _ fun high low more he => (hshort high low more he).elim
  | case4 c rest hc ih =>
    rw [List.flatMap_cons, unescape?_append (ne_percent_of_mem_utf8EncodeChar hc), ih,
      decodeBytes?_cons_of_ne hc]

theorem toList_toByteArray (s : String) :
    s.toByteArray.data.toList = s.toList.flatMap String.utf8EncodeChar := by
  rw [← String.utf8Encode_toList, List.utf8Encode, List.toList_data_toByteArray]

/-- Decoding is a walk over the bytes of the text. -/
theorem decode?_eq_unescape? (s : String) :
    decode? s = (unescape? s.toByteArray.data.toList).bind fun bytes =>
      String.fromUTF8? ⟨bytes.toArray⟩ := by
  rw [toList_toByteArray, unescape?_flatMap_utf8EncodeChar, decode?]

/-! ## The round trip -/

/-- Encoding writes unreserved characters and triples only, and decoding undoes it; what decoding gives
    is given again by the encoding of it. -/
theorem component_roundTrip :
    (∀ s, IsEncoded (encode s).toList ∧ (∀ c ∈ (encode s).toList, c.toNat < 0x80) ∧
      decode? (encode s) = some s) ∧
    ∀ t, ((decode? t).map encode).bind decode? = decode? t := by
  refine ⟨fun s => ⟨isEncoded_encode s, (isEncoded_encode s).toNat_lt, decode?_encode s⟩, fun t => ?_⟩
  cases decode? t with
  | none => rfl
  | some s => exact decode?_encode s

/-- A space, a letter of two bytes and a percent sign become triples, and an escaped letter is given
    again without its triple. -/
theorem component_roundTrip_accent :
    encode "a é%" = "a%20%C3%A9%25" ∧ IsEncoded "a%20%C3%A9%25".toList ∧
      (∀ c ∈ "a%20%C3%A9%25".toList, c.toNat < 0x80) ∧ decode? "a%20%C3%A9%25" = some "a é%" ∧
      ((decode? "%41%c3%a9").map encode).bind decode? = decode? "%41%c3%a9" := by
  have henc : encode "a é%" = "a%20%C3%A9%25" := by decide +kernel
  obtain ⟨hform, hascii, hdec⟩ := component_roundTrip.1 "a é%"
  rw [henc] at hform hascii hdec
  exact ⟨henc, hform, hascii, hdec, component_roundTrip.2 "%41%c3%a9"⟩

end DataBinding.Text.Percent
