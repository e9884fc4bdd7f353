import DataBinding.Proofs.Text.Bytes
import DataBinding.Proofs.Text.Percent
import DataBinding.Proofs.Value.Numeral

/-!
# The number at the start of a text, by byte offsets

The spans of a number are found in the bytes of a text: an offset moves behind a sign, behind digits,
behind a point, and back from an exponent that is none. Bytes are looked at where they stand, but the
text is cut at offsets, and a text has no cut within a character. Each offset is the size of the
characters taken so far, so that every cut is there.

Results:

* `Text.cut?_eq_some_iff`: the cuts of a text.
* `scan?_eq`: the scan of the bytes finds every cut it asks for and gives the number at the start.
* `ofFloatPrefix_longest`: the number at the start of a text, as its longest numeral and as scanned.
-/

namespace DataBinding

namespace Text

/-- The size of a text in bytes. -/
def byteSize (cs : List Char) : Nat := (utf8 cs).length

@[simp] theorem byteSize_nil : byteSize [] = 0 := rfl

theorem byteSize_append (a b : List Char) : byteSize (a ++ b) = byteSize a + byteSize b := by
  rw [byteSize, utf8_append, List.length_append]
  rfl

theorem byteSize_cons (c : Char) (cs : List Char) : byteSize (c :: cs) = c.utf8Size + byteSize cs := by
  rw [byteSize, utf8_cons, List.length_append, String.length_utf8EncodeChar]
  rfl

theorem byteSize_eq_zero_iff {cs : List Char} : byteSize cs = 0 ↔ cs = [] := by
  cases cs with
  | nil => simp
  | cons c cs =>
    have := c.utf8Size_pos
    simp only [byteSize_cons, reduceCtorEq, iff_false]
    omega

/-- What stands before a byte offset and what stands behind it. There is no cut within a character, or
    beyond the end. -/
def cut? : List Char → Nat → Option (List Char × List Char)
  | cs, 0 => some ([], cs)
  | [], _ + 1 => none
  | c :: cs, i + 1 =>
    if c.utf8Size ≤ i + 1 then
      (cut? cs (i + 1 - c.utf8Size)).map fun (before, rest) => (c :: before, rest)
    else none

theorem cut?_append (a b : List Char) : cut? (a ++ b) (byteSize a) = some (a, b) := by
  induction a with
  | nil => rw [List.nil_append, byteSize_nil, cut?]
  | cons c a ih =>
    obtain ⟨i, hi⟩ := Nat.exists_eq_add_one.2 (Nat.add_pos_left c.utf8Size_pos (byteSize a))
    have hrest : i + 1 - c.utf8Size = byteSize a := by omega
    rw [List.cons_append, byteSize_cons, hi, cut?, if_pos (by omega), hrest, ih]
    rfl

/-- The cuts of a text are those between its characters. -/
theorem cut?_eq_some_iff {cs a b : List Char} {i : Nat} :
    cut? cs i = some (a, b) ↔ cs = a ++ b ∧ i = byteSize a := by
  constructor
  · intro h
    fun_induction cut? cs i generalizing a with
    | case1 cs =>
      obtain ⟨rfl, rfl⟩ := Prod.mk.inj (Option.some.inj h)
      exact ⟨rfl, rfl⟩
    | case2 => cases h
    | case3 c cs i hle ih =>
      obtain ⟨⟨before, rest⟩, hcut, he⟩ := Option.map_eq_some_iff.1 h
      obtain ⟨rfl, rfl⟩ := Prod.mk.inj he
      obtain ⟨rfl, hi⟩ := ih hcut
      exact ⟨rfl, by rw [byteSize_cons]; omega⟩
    | case4 => cases h
  · rintro ⟨rfl, rfl⟩
    exact cut?_append a b

/-- The second byte of the euro sign is within it. -/
example : cut? "1€".toList 2 = none := by decide

/-- Does a character of one byte stand at a byte offset? -/
def isAt (cs : List Char) (i : Nat) (d : Char) : Bool := (utf8 cs)[i]? == some (UInt8.ofNat d.toNat)

/-- Behind the characters taken, a character stands at the offset as it is ahead. -/
theorem isAt_byteSize {cs a b : List Char} (h : a ++ b = cs) {d : Char} (hd : d.toNat < 0x80) :
    isAt cs (byteSize a) d = decide (b.head? = some d) := by
  have hbyte : String.utf8EncodeChar d = [UInt8.ofNat d.toNat] := by
    rcases Percent.utf8EncodeChar_cases d with ⟨-, he⟩ | ⟨hge, -⟩
    · exact he
    · omega
  have hget : (utf8 cs)[byteSize a]? = (utf8 b).head? := by
    rw [← h, utf8_append, byteSize, List.getElem?_append_right (Nat.le_refl _), Nat.sub_self,
      List.head?_eq_getElem?]
  rw [isAt, hget, Bool.eq_iff_iff, beq_iff_eq, decide_eq_true_iff, List.head?_eq_some_iff]
  constructor
  · rintro ⟨more, hmore⟩
    cases b with
    | nil => cases hmore
    | cons c b =>
      refine congrArg some (eq_of_utf8EncodeChar_append (x := utf8 b) (y := more) ?_)
      rw [hbyte, ← utf8_cons, hmore]
      rfl
  · intro hhead
    obtain ⟨rest, rfl⟩ := List.head?_eq_some_iff.1 hhead
    exact ⟨utf8 rest, by rw [utf8_cons, hbyte]; rfl⟩

end Text

namespace Numeral

open Text (utf8 byteSize cut? isAt isAt_byteSize)

/-! ## Offsets -/

/-- Is the byte a decimal digit? -/
def isDigitByte (b : UInt8) : Bool := 0x30 ≤ b && b ≤ 0x39

/-- The offset behind the digits at an offset. -/
def digitsEnd? (cs : List Char) (i : Nat) : Option Nat :=
  (cut? cs i).map fun (_, rest) => i + ((utf8 rest).takeWhile isDigitByte).length

/-- The offset behind a sign at an offset. -/
def signEnd (cs : List Char) (i : Nat) : Nat :=
  if isAt cs i '+' || isAt cs i '-' then i + 1 else i

/-- The offset behind a point and digits at an offset. -/
def fractionEnd? (cs : List Char) (i : Nat) : Option Nat :=
  if isAt cs i '.' then digitsEnd? cs (i + 1) else some i

/-- The offset behind an exponent at an offset. A mark without digits is none. -/
def exponentEnd? (cs : List Char) (i : Nat) : Option Nat :=
  if isAt cs i 'e' || isAt cs i 'E' then
    (digitsEnd? cs (signEnd cs (i + 1))).map fun j => if signEnd cs (i + 1) < j then j else i
  else some i

/-- The number at the start of a text without blanks before it. There is none if a cut is missing. -/
def scan? (cs : List Char) : Option Float := do
  let start := signEnd cs 0
  let (_, unsigned) ← cut? cs start
  if Text.startsWith "Infinity".toList unsigned then
    return if Text.startsWith "-".toList cs then -infinity else infinity
  let wholeEnd ← digitsEnd? cs start
  let fractionEnd ← fractionEnd? cs wholeEnd
  if (wholeEnd - start) + (fractionEnd - wholeEnd - 1) = 0 then return nan
  let stop ← exponentEnd? cs fractionEnd
  let (numeral, _) ← cut? cs stop
  return (Decimal.read? numeral).getD nan

/-! ## The offsets of the spans -/

/-- The first byte of a character is a digit as the character is. -/
theorem isDigitByte_utf8EncodeChar (c : Char) : ∃ b more, String.utf8EncodeChar c = b :: more ∧
    isDigitByte b = c.isDigit ∧ (c.isDigit = true → more = []) := by
  have hdigit : c.isDigit = true ↔ 48 ≤ c.toNat ∧ c.toNat ≤ 57 := Char.isDigit_iff_toNat
  rcases Text.Percent.utf8EncodeChar_cases c with ⟨hc, he⟩ | ⟨hc, b, b', more, he, hge⟩
  · refine ⟨_, _, he, ?_, fun _ => rfl⟩
    have htoNat : (UInt8.ofNat c.toNat).toNat = c.toNat :=
      UInt8.toNat_ofNat_of_lt' (Nat.lt_trans hc (by decide))
    rw [Bool.eq_iff_iff, hdigit, isDigitByte, Bool.and_eq_true, decide_eq_true_iff,
      decide_eq_true_iff, UInt8.le_iff_toNat_le, UInt8.le_iff_toNat_le, htoNat]
    rfl
  · have hb : 0x80 ≤ b.toNat := hge b List.mem_cons_self
    have hno : c.isDigit = false := by
      rw [← Bool.not_eq_true, hdigit]
      omega
    refine ⟨b, b' :: more, he, ?_, fun h => absurd h (ne_true_of_eq_false hno)⟩
    rw [hno, isDigitByte, Bool.and_eq_false_iff]
    refine .inr (decide_eq_false fun hle => ?_)
    have : b.toNat ≤ 57 := UInt8.le_iff_toNat_le.1 hle
    omega

/-- The digits ahead among the bytes are those among the characters. -/
theorem takeWhile_isDigitByte (cs : List Char) :
    (utf8 cs).takeWhile isDigitByte = utf8 (digitSpan cs).1 := by
  induction cs with
  | nil => rfl
  | cons c cs ih =>
    obtain ⟨b, more, he, hb, hmore⟩ := isDigitByte_utf8EncodeChar c
    rw [Text.utf8_cons, he, digitSpan]
    cases hc : c.isDigit with
    | true =>
      rw [hmore hc] at he ⊢
      rw [List.singleton_append, List.takeWhile_cons_of_pos (hb.trans hc),
        List.takeWhile_cons_of_pos hc, Text.utf8_cons, he, List.singleton_append, ih]
      rfl
    | false =>
      rw [List.cons_append, List.takeWhile_cons_of_neg (ne_true_of_eq_false (hb.trans hc)),
        List.takeWhile_cons_of_neg (ne_true_of_eq_false hc)]
      rfl

section

variable {cs a b : List Char} (h : a ++ b = cs)
include h

theorem digitsEnd?_eq : digitsEnd? cs (byteSize a) = some (byteSize (a ++ (digitSpan b).1)) := by
  rw [digitsEnd?, Text.cut?_eq_some_iff.2 ⟨h.symm, rfl⟩, Option.map_some]
  dsimp only
  rw [takeWhile_isDigitByte, Text.byteSize_append]
  rfl

theorem signEnd_eq : signEnd cs (byteSize a) = byteSize (a ++ (signSpan b).1) := by
  rw [signEnd, isAt_byteSize h (by decide), isAt_byteSize h (by decide)]
  by_cases hb : b.head? = some '+' ∨ b.head? = some '-'
  · rw [if_pos (by simpa using hb), Text.byteSize_append]
    rcases hb with hb | hb <;> obtain ⟨rest, rfl⟩ := List.head?_eq_some_iff.1 hb <;> rfl
  · have hstops : Stops IsSign b := by
      rintro c hc (rfl | rfl)
      · exact hb (.inl hc)
      · exact hb (.inr hc)
    rw [if_neg (by simpa using hb), signSpan_of_stops hstops, List.append_nil]

theorem fractionEnd?_eq :
    fractionEnd? cs (byteSize a) = some (byteSize (a ++ (fractionSpan b).1)) := by
  rw [fractionEnd?, isAt_byteSize h (by decide)]
  by_cases hb : b.head? = some '.'
  · obtain ⟨rest, rfl⟩ := List.head?_eq_some_iff.1 hb
    have hpoint : (a ++ ['.']) ++ rest = cs := by rw [← h, List.append_assoc]; rfl
    have hsize : byteSize a + 1 = byteSize (a ++ ['.']) := by rw [Text.byteSize_append]; rfl
    rw [if_pos (decide_eq_true hb), hsize, digitsEnd?_eq hpoint, List.append_assoc]
    rfl
  · have hne (rest : List Char) : b ≠ '.' :: rest := by
      rintro rfl
      exact hb rfl
    rw [if_neg (mt of_decide_eq_true hb), fractionSpan_of_ne hne, List.append_nil]

theorem exponentEnd?_eq :
    exponentEnd? cs (byteSize a) = some (byteSize (a ++ (exponentSpan b).1)) := by
  rw [exponentEnd?, isAt_byteSize h (by decide), isAt_byteSize h (by decide)]
  cases b with
  | nil => simp [exponentSpan]
  | cons c rest =>
    simp only [List.head?_cons, Option.some_inj, Bool.or_eq_true, decide_eq_true_eq]
    rw [exponentSpan]
    by_cases hc : c = 'e' ∨ c = 'E'
    · have hmark : (a ++ [c]) ++ rest = cs := by rw [← h, List.append_assoc]; rfl
      have hsize : byteSize a + 1 = byteSize (a ++ [c]) := by
        rw [Text.byteSize_append]
        rcases hc with rfl | rfl <;> rfl
      have hsign : a ++ [c] ++ (signSpan rest).1 ++ (signSpan rest).2 = cs := by
        rw [List.append_assoc, signSpan_append, hmark]
      rw [if_pos hc, hsize, signEnd_eq hmark, digitsEnd?_eq hsign, Option.map_some,
        Text.byteSize_append (a ++ [c] ++ (signSpan rest).1)]
      by_cases hdigits : (digitSpan (signSpan rest).2).1 = []
      · rw [hdigits, if_neg (by simp), if_neg (by simp), List.append_nil]
      · have hpos := Nat.pos_of_ne_zero (mt Text.byteSize_eq_zero_iff.1 hdigits)
        rw [if_pos (by omega), if_pos ⟨hc, hdigits⟩, ← Text.byteSize_append]
        simp
    · rw [if_neg hc, if_neg fun h => hc h.1, List.append_nil]

end

/-! ## The scan -/

/-- Bytes other than that of the point are counted where a mantissa is ahead. -/
theorem digitCount_eq_zero_iff (cs : List Char) :
    byteSize (digitSpan cs).1 + (byteSize (fractionSpan (digitSpan cs).2).1 - 1) = 0 ↔
      (mantissaSpan cs).1 = [] := by
  rw [mantissaSpan_eq, Nat.add_eq_zero_iff, Text.byteSize_eq_zero_iff]
  rcases fractionSpan_cases (digitSpan cs).2 with hnil | ⟨fs, -, hcons⟩
  · rw [hnil]
    by_cases hwhole : (digitSpan cs).1 = [] <;> simp [hwhole]
  · have hpoint : byteSize ('.' :: fs) - 1 = byteSize fs := by
      rw [Text.byteSize_cons]
      exact Nat.add_sub_cancel_left 1 _
    rw [hcons, hpoint, Text.byteSize_eq_zero_iff]
    by_cases hwhole : (digitSpan cs).1 = [] <;> by_cases hfs : fs = [] <;> simp [hwhole, hfs]

/-- What is taken as a mantissa is taken as digits and as a fraction. -/
theorem mantissaSpan_of_ne {cs : List Char} (hne : (mantissaSpan cs).1 ≠ []) :
    mantissaSpan cs = ((digitSpan cs).1 ++ (fractionSpan (digitSpan cs).2).1,
      (fractionSpan (digitSpan cs).2).2) := by
  rw [mantissaSpan_eq] at hne ⊢
  split at hne
  · exact absurd rfl hne
  · rename_i h
    rw [if_neg h]

/-- More is taken of what follows. -/
theorem taken_append {cs a b a' b' : List Char} (h : a ++ b = cs) (hb : a' ++ b' = b) :
    a ++ a' ++ b' = cs := by
  rw [List.append_assoc, hb, h]

/-- The scan of the bytes finds every cut it asks for and gives the number at the start. -/
theorem scan?_eq (s : String) : scan? (unblanked s) = some (ofFloatPrefix s) := by
  rw [ofFloatPrefix_unblanked]
  generalize unblanked s = cs
  -- every offset is the size of what is taken so far
  have hsign := signSpan_append cs
  have hwhole := taken_append hsign (digitSpan_append _)
  have hfraction := taken_append hwhole (fractionSpan_append _)
  have hexponent := taken_append hfraction (exponentSpan_append _)
  have hstart : signEnd cs 0 = byteSize (signSpan cs).1 := signEnd_eq (List.nil_append cs)
  rw [scan?, hstart, Text.cut?_eq_some_iff.2 ⟨hsign.symm, rfl⟩]
  simp only [Option.bind_eq_bind, Option.bind_some]
  by_cases hinf : Text.startsWith "Infinity".toList (signSpan cs).2 = true
  · rw [if_pos hinf, if_pos hinf]
    have hminus : Text.startsWith "-".toList cs = true ↔ cs.head? = some '-' := by
      rw [Text.startsWith_iff, List.head?_eq_some_iff]
      exact exists_congr fun _ => eq_comm
    simp only [hminus]
    rfl
  have hcount (w f : Nat) : byteSize (signSpan cs).1 + w - byteSize (signSpan cs).1 +
      (byteSize (signSpan cs).1 + w + f - (byteSize (signSpan cs).1 + w) - 1) = w + (f - 1) := by
    omega
  rw [if_neg hinf, if_neg hinf, digitsEnd?_eq hsign, Option.bind_some, fractionEnd?_eq hwhole,
    Option.bind_some, exponentEnd?_eq hfraction, Option.bind_some,
    Text.cut?_eq_some_iff.2 ⟨hexponent.symm, rfl⟩, Option.bind_some]
  simp only [Text.byteSize_append, hcount, digitCount_eq_zero_iff, floatSpan_eq]
  split
  · rfl
  · rename_i hne
    rw [mantissaSpan_of_ne hne]
    dsimp only
    rw [List.append_assoc (signSpan cs).1]
    rfl

/-! ## The longest numeral -/

/-- The number at the start of a text is that of its longest numeral, and it is not a number where there
    is none. -/
structure ReadsLongest (s : String) : Prop where
  exists_longest : (∃ p, p <+: unblanked s ∧ IsNumeral p) → ∃ p, IsLongest p (unblanked s)
  value : ∀ p, IsLongest p (unblanked s) → ofFloatPrefix s = ofDecimal p
  /-- A decimal number is read as a whole. -/
  read : ∀ p, IsLongest p (unblanked s) → IsDecimal p → Decimal.read? p = some (ofFloatPrefix s)
  isNaN_iff : (ofFloatPrefix s).isNaN = true ↔ ∀ p, p ≠ [] → p <+: unblanked s → ¬ IsNumeral p
  /-- The scan of the bytes, which has no result where it asks for a cut that there is not, has one. -/
  scanned : scan? (unblanked s) = some (ofFloatPrefix s)
  /-- The cuts are those between characters. -/
  cuts : ∀ i before rest, cut? (unblanked s) i = some (before, rest) ↔
    unblanked s = before ++ rest ∧ i = byteSize before

/-- The number at the start of a text is that of its longest numeral. -/
theorem ofFloatPrefix_longest (s : String) : ReadsLongest s where
  exists_longest := fun ⟨_, hp, h⟩ => ⟨_, isLongest_numeralSpan hp h⟩
  value _ := ofFloatPrefix_of_isLongest
  read p hp h := by rw [ofFloatPrefix_of_isLongest hp, h.read?_eq]
  isNaN_iff := isNaN_ofFloatPrefix_iff
  scanned := scan?_eq s
  cuts _ _ _ := Text.cut?_eq_some_iff

end Numeral

end DataBinding
