import Mathlib
import DataBinding.Proofs.Text.Places

/-!
# Searches in UTF-8

A search in the bytes of a text finds what a search in its characters finds. The bytes of two different
characters are no prefix of each other, so that a pattern stands at a character as its bytes stand at
the bytes of the character. No character starts within the bytes of another one, so that a pattern
stands nowhere else. A byte position becomes a position by counting the bytes that start a character.

Results:

* `utf8_prefix_iff`, `utf8_suffix_iff`: bytes are a prefix or a suffix as the characters are.
* `cutAt?_utf8`: the first place among the bytes is the first place among the characters.
* `indexOf?_utf8`: the characters before the byte position found count up to the position found.
* `splitOn_utf8`: the parts of the bytes are the bytes of the parts.
-/

namespace DataBinding.Text

/-- The bytes of a text. -/
def utf8 (text : List Char) : List UInt8 := text.flatMap String.utf8EncodeChar

@[simp] theorem utf8_nil : utf8 [] = [] := rfl

theorem utf8_cons (c : Char) (text : List Char) :
    utf8 (c :: text) = String.utf8EncodeChar c ++ utf8 text := List.flatMap_cons

theorem utf8_append (a b : List Char) : utf8 (a ++ b) = utf8 a ++ utf8 b := List.flatMap_append

/-- The number of characters that bytes start. -/
def charCount (bytes : List UInt8) : Nat := bytes.countP fun b => decide b.IsUTF8FirstByte

/-! ## The bytes of characters -/

/-- One byte starts a character, and the bytes behind it start none. -/
theorem utf8EncodeChar_eq_cons (c : Char) : ∃ b more, String.utf8EncodeChar c = b :: more ∧
    b.IsUTF8FirstByte ∧ ∀ x ∈ more, ¬ x.IsUTF8FirstByte := by
  obtain ⟨b, more, h⟩ := List.exists_cons_of_ne_nil (@String.utf8EncodeChar_ne_nil c)
  have hfirst (i : Nat) (hi : i < (b :: more).length) : (b :: more)[i].IsUTF8FirstByte ↔ i = 0 := by
    simp only [← h]
    exact UInt8.isUTF8FirstByte_getElem_utf8EncodeChar
  refine ⟨b, more, h, (hfirst 0 (by simp)).2 rfl, fun x hx => ?_⟩
  obtain ⟨i, hi, rfl⟩ := List.getElem_of_mem hx
  exact (hfirst (i + 1) (Nat.succ_lt_succ hi)).not.2 (Nat.succ_ne_zero i)

/-- The bytes ahead tell the character. -/
theorem eq_of_utf8EncodeChar_append {c d : Char} {x y : List UInt8}
    (h : String.utf8EncodeChar c ++ x = String.utf8EncodeChar d ++ y) : c = d := by
  have decoded (e : Char) (z : List UInt8) :
      ((String.utf8EncodeChar e ++ z).toByteArray).utf8DecodeChar? 0 = some e := by
    rw [List.toByteArray_append, ByteArray.utf8DecodeChar?_utf8EncodeChar_append]
  have hc := decoded c x
  rw [h, decoded d y] at hc
  exact (Option.some.inj hc).symm

variable {pattern text : List Char}

/-- The bytes of a pattern are ahead as the pattern is. -/
theorem utf8_prefix_iff : utf8 pattern <+: utf8 text ↔ pattern <+: text := by
  constructor
  · intro h
    induction pattern generalizing text with
    | nil => exact List.nil_prefix
    | cons p ps ih =>
      obtain ⟨rest, hrest⟩ := h
      rw [utf8_cons, List.append_assoc] at hrest
      cases text with
      | nil => exact absurd (List.append_eq_nil_iff.1 hrest).1 String.utf8EncodeChar_ne_nil
      | cons c cs =>
        rw [utf8_cons] at hrest
        obtain rfl := eq_of_utf8EncodeChar_append hrest
        exact (List.cons_prefix_cons.2 ⟨rfl, ih ⟨rest, List.append_cancel_left hrest⟩⟩)
  · rintro ⟨rest, rfl⟩
    exact ⟨utf8 rest, (utf8_append pattern rest).symm⟩

theorem utf8_inj {a b : List Char} : utf8 a = utf8 b ↔ a = b := by
  refine ⟨fun h => ?_, fun h => by rw [h]⟩
  have hab : a <+: b := utf8_prefix_iff.1 (h ▸ List.prefix_refl _)
  have hba : b <+: a := utf8_prefix_iff.1 (h ▸ List.prefix_refl _)
  exact hab.eq_of_length_le hba.length_le

/-- Bytes that start no character are not those of a text. -/
theorem not_utf8_prefix_of_not_first {x : UInt8} (hx : ¬ x.IsUTF8FirstByte) (hp : pattern ≠ [])
    (bytes : List UInt8) : ¬ utf8 pattern <+: x :: bytes := by
  rintro ⟨rest, h⟩
  cases pattern with
  | nil => exact hp rfl
  | cons p ps =>
    obtain ⟨b, more, hb, hfirst, -⟩ := utf8EncodeChar_eq_cons p
    rw [utf8_cons, hb] at h
    exact hx ((List.cons.inj h).1 ▸ hfirst)

/-! ## Searches -/

theorem cutAt?_append_of_not_first (hp : pattern ≠ []) {more : List UInt8}
    (h : ∀ x ∈ more, ¬ x.IsUTF8FirstByte) (bytes : List UInt8) :
    cutAt? (utf8 pattern) (more ++ bytes) =
      (cutAt? (utf8 pattern) bytes).map fun (before, rest) => (more ++ before, rest) := by
  induction more with
  | nil => simp
  | cons x more ih =>
    obtain ⟨hx, hmore⟩ := List.forall_mem_cons.1 h
    rw [List.cons_append, cutAt?_cons_of_not_isPrefix (not_utf8_prefix_of_not_first hx hp _), ih hmore,
      Option.map_map]
    rfl

/-- The first place among the bytes is the first place among the characters. -/
theorem cutAt?_utf8 (pattern text : List Char) : cutAt? (utf8 pattern) (utf8 text) =
    (cutAt? pattern text).map fun (before, rest) => (utf8 before, utf8 rest) := by
  induction text with
  | nil => cases pattern with
    | nil => rfl
    | cons p ps =>
      obtain ⟨b, more, hb, -⟩ := utf8EncodeChar_eq_cons p
      rw [utf8_cons, hb]
      rfl
  | cons c cs ih =>
    by_cases h : pattern <+: c :: cs
    · obtain ⟨rest, hrest⟩ := h
      rw [← hrest, utf8_append, cutAt?_of_isPrefix, cutAt?_of_isPrefix]
      rfl
    · have hp : pattern ≠ [] := fun hp => h (hp ▸ List.nil_prefix)
      obtain ⟨b, more, hb, -, hmore⟩ := utf8EncodeChar_eq_cons c
      have hbytes : ¬ utf8 pattern <+: utf8 (c :: cs) := fun hb => h (utf8_prefix_iff.1 hb)
      rw [utf8_cons, hb, List.cons_append] at hbytes
      rw [utf8_cons, hb, List.cons_append, cutAt?_cons_of_not_isPrefix hbytes,
        cutAt?_append_of_not_first hp hmore, ih, cutAt?_cons_of_not_isPrefix h]
      simp [Function.comp_def, utf8_cons, hb]

/-- Every character counts. -/
theorem charCount_utf8 (text : List Char) : charCount (utf8 text) = text.length := by
  induction text with
  | nil => rfl
  | cons c cs ih =>
    obtain ⟨b, more, hb, hfirst, hmore⟩ := utf8EncodeChar_eq_cons c
    rw [charCount] at ih ⊢
    rw [utf8_cons, hb, List.countP_append, ih, List.countP_cons_of_pos (by simpa using hfirst),
      List.countP_eq_zero.2 (by simpa using hmore), List.length_cons, Nat.zero_add, Nat.add_comm]

/-- The characters before the byte position found count up to the position found. -/
theorem indexOf?_utf8 (pattern text : List Char) :
    (indexOf? (utf8 pattern) (utf8 text)).map (fun b => charCount ((utf8 text).take b)) =
      indexOf? pattern text := by
  rw [indexOf?, indexOf?, cutAt?_utf8]
  rcases h : cutAt? pattern text with _ | ⟨before, rest⟩
  · rfl
  · rw [cutAt?_eq_some h, List.append_assoc, utf8_append]
    simp [charCount_utf8]

theorem startsWith_utf8 (pattern text : List Char) :
    startsWith (utf8 pattern) (utf8 text) = startsWith pattern text := by
  rw [Bool.eq_iff_iff, startsWith_iff, startsWith_iff, utf8_prefix_iff]

/-- The bytes of a pattern are at the end as the pattern is. -/
theorem utf8_suffix_iff : utf8 pattern <:+ utf8 text ↔ pattern <:+ text := by
  constructor
  · rintro ⟨front, h⟩
    induction text generalizing front with
    | nil =>
      rw [utf8_nil, List.append_eq_nil_iff, ← utf8_nil, utf8_inj] at h
      rw [h.2]
    | cons c cs ih =>
      rw [utf8_cons] at h
      rcases List.append_eq_append_iff.1 h with ⟨tail, hc, htail⟩ | ⟨front', -, hcs⟩
      · obtain ⟨b, more, hb, -, hmore⟩ := utf8EncodeChar_eq_cons c
        rw [hb] at hc
        cases front with
        | nil =>
          rw [List.nil_append] at hc
          rw [← hc, ← hb, ← utf8_cons, utf8_inj] at htail
          rw [htail]
        | cons x front =>
          cases tail with
          | nil =>
            rw [List.nil_append, utf8_inj] at htail
            rw [htail]
            exact List.suffix_cons c cs
          | cons y tail =>
            -- the pattern would start within the bytes of the character
            have hy : ¬ y.IsUTF8FirstByte := by
              refine hmore y ?_
              rw [(List.cons.inj hc).2]
              simp
            have hp : pattern ≠ [] := by
              rintro rfl
              cases htail
            refine absurd ?_ (not_utf8_prefix_of_not_first hy hp (tail ++ utf8 cs))
            rw [htail]
            exact List.prefix_refl _
      · exact (ih front' hcs.symm).trans (List.suffix_cons c cs)
  · rintro ⟨front, rfl⟩
    exact ⟨utf8 front, (utf8_append front pattern).symm⟩

theorem endsWith_utf8 (pattern text : List Char) :
    endsWith (utf8 pattern) (utf8 text) = endsWith pattern text := by
  rw [Bool.eq_iff_iff, endsWith_iff, endsWith_iff, utf8_suffix_iff]

/-- The parts of the bytes are the bytes of the parts. -/
theorem splitOn_utf8 {separator : List Char} (hs : separator ≠ []) (hb : utf8 separator ≠ [])
    (text : List Char) :
    splitOn (utf8 separator) hb (utf8 text) = (splitOn separator hs text).map utf8 := by
  fun_induction splitOn separator hs text with
  | case1 text before rest h ih =>
    have hcut : cutAt? (utf8 separator) (utf8 text) = some (utf8 before, utf8 rest) := by
      rw [cutAt?_utf8, h]
      rfl
    rw [splitOn_of_cutAt? hb hcut, ih, List.map_cons]
  | case2 text h =>
    have hcut : cutAt? (utf8 separator) (utf8 text) = none := by
      rw [cutAt?_utf8, h]
      rfl
    rw [splitOn_of_cutAt?_none hb hcut, List.map_singleton]

end DataBinding.Text
