import DataBinding.Decimal.Reader

/-!
# Percent encoding

A text as a component of an address: every character but the unreserved ones is written as its UTF-8
bytes, and a byte as a percent sign and two hexadecimal digits. Decoding takes digits of either case and
leaves all other characters as they are; the bytes must make up UTF-8.

Results:

* `Percent.decodeBytes?_cons_of_ne`: a character that is no percent sign stands for its own bytes.
-/

namespace DataBinding.Text.Percent

/-- Is the character written as itself? -/
def isUnreserved (c : Char) : Bool := c.isAlphanum || "-_.!~*'()".toList.contains c

/-- The upper-case hexadecimal digit of a number below sixteen. -/
def upperHexDigit (n : Nat) : Char := if n < 10 then Char.ofNat (48 + n) else Char.ofNat (55 + n)

/-- A byte, written as a percent sign and two digits. -/
def triple (b : UInt8) : List Char :=
  ['%', upperHexDigit (b.toNat / 16), upperHexDigit (b.toNat % 16)]

/-- A character of the encoded text. -/
def encodeChar (c : Char) : List Char :=
  if isUnreserved c then [c] else (String.utf8EncodeChar c).flatMap triple

/-- The encoded text. -/
def encode (s : String) : String := String.ofList (s.toList.flatMap encodeChar)

/-- The byte of two hexadecimal digits. -/
def byteOfDigits? (high low : Char) : Option UInt8 := do
  let h ← Decimal.digitValue? 16 high
  let l ← Decimal.digitValue? 16 low
  return UInt8.ofNat (16 * h + l)

/-- The bytes of an encoded text; none if a percent sign stands without its two digits. -/
def decodeBytes? : List Char → Option (List UInt8)
  | [] => some []
  | c :: rest =>
    if c = '%' then
      match rest with
      | high :: low :: more => do
        let b ← byteOfDigits? high low
        let bytes ← decodeBytes? more
        return b :: bytes
      | _ => none
    else do
      let bytes ← decodeBytes? rest
      return String.utf8EncodeChar c ++ bytes

/-- The decoded text. -/
def decode? (s : String) : Option String :=
  (decodeBytes? s.toList).bind fun bytes => String.fromUTF8? ⟨bytes.toArray⟩

/-- A character that is no percent sign stands for its own bytes. -/
theorem decodeBytes?_cons_of_ne {c : Char} (h : c ≠ '%') (rest : List Char) :
    decodeBytes? (c :: rest) = (decodeBytes? rest).map (String.utf8EncodeChar c ++ ·) := by
  rw [decodeBytes?.eq_def]
  simp only [h, ↓reduceIte]
  cases decodeBytes? rest <;> rfl

end DataBinding.Text.Percent
