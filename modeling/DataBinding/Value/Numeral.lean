import DataBinding.Value.Text
import DataBinding.Decimal.Reader
import DataBinding.Text.Search

/-!
# Numbers in texts

A text as a whole, the integer at the start of a text, and the decimal number at the start of a text.

Results:

* `floatSpan_append`: the number at the start of a text and what follows it make up the text.
-/

namespace DataBinding

namespace Numeral

/-- Not a number. -/
def nan : Float := 0.0 / 0.0

/-- Positive infinity. -/
def infinity : Float := 1.0 / 0.0

/-! ## Whole texts -/

/-- The base of digits after `0` and this mark. -/
def baseOfMark? (c : Char) : Option Nat :=
  if c = 'x' ∨ c = 'X' then some 16
  else if c = 'o' ∨ c = 'O' then some 8
  else if c = 'b' ∨ c = 'B' then some 2
  else none

/-- Can the character stand in a decimal number? -/
def isDecimalChar (c : Char) : Bool :=
  c.isDigit || c == '.' || c == 'e' || c == 'E' || c == '+' || c == '-'

/-- The number of a text without blanks around it that is no number in another base. -/
def ofDecimal (cs : List Char) : Float :=
  if cs = "Infinity".toList ∨ cs = "+Infinity".toList then infinity
  else if cs = "-Infinity".toList then -infinity
  else if cs.all isDecimalChar then (Decimal.read? cs).getD nan
  else nan

/-- The number that a text stands for as a whole. Blanks around it do not count, and blanks alone stand
    for zero. -/
def ofText (s : String) : Float :=
  match Text.trim Unicode.isWhitespace s.toList with
  | [] => 0.0
  | '0' :: c :: digits =>
    match baseOfMark? c with
    | some base => (Decimal.readBase? base digits).getD nan
    | none => ofDecimal ('0' :: c :: digits)
  | cs => ofDecimal cs

/-! ## Integers at the start of a text -/

/-- What follows the mark of a number in base sixteen. -/
def afterHexMark? : List Char → Option (List Char)
  | '0' :: 'x' :: rest | '0' :: 'X' :: rest => some rest
  | _ => none

/-- The number of the digits ahead, in doubles. -/
def digitRun (base : Nat) (cs : List Char) : Float :=
  let digits := cs.takeWhile fun c => (Decimal.digitValue? base c).isSome
  (Decimal.readBase? base digits).getD nan

/-- The integer at the start of a text in a base. Base zero stands for ten, or for sixteen before a
    hexadecimal number. -/
def ofIntPrefix (s : String) (base : Int) : Float :=
  let cs := s.toList.dropWhile Unicode.isWhitespace
  let (negative, cs) := Decimal.takeSign cs
  let (base, cs) := match afterHexMark? cs with
    | some rest => if base = 0 ∨ base = 16 then (16, rest) else (base, cs)
    | none => (base, cs)
  let base := if base = 0 then 10 else base
  if base < 2 ∨ 36 < base then nan
  else
    let x := digitRun base.toNat cs
    (if negative then -1.0 else 1.0) * x

/-! ## Decimal numbers at the start of a text -/

/-- The digits ahead, and what follows. -/
def digitSpan (cs : List Char) : List Char × List Char :=
  (cs.takeWhile Char.isDigit, cs.dropWhile Char.isDigit)

/-- The point and the digits ahead, and what follows. -/
def fractionSpan : List Char → List Char × List Char
  | '.' :: rest => ('.' :: (digitSpan rest).1, (digitSpan rest).2)
  | cs => ([], cs)

/-- The sign ahead, and what follows. -/
def signSpan : List Char → List Char × List Char
  | '+' :: rest => (['+'], rest)
  | '-' :: rest => (['-'], rest)
  | cs => ([], cs)

/-- The exponent ahead, and what follows. A mark without digits is none. -/
def exponentSpan : List Char → List Char × List Char
  | [] => ([], [])
  | c :: rest =>
    if (c = 'e' ∨ c = 'E') ∧ (digitSpan (signSpan rest).2).1 ≠ [] then
      (c :: (signSpan rest).1 ++ (digitSpan (signSpan rest).2).1, (digitSpan (signSpan rest).2).2)
    else ([], c :: rest)

/-- The mantissa ahead, and what follows. A point without digits is none. -/
def mantissaSpan (cs : List Char) : List Char × List Char :=
  let (whole, rest) := digitSpan cs
  let (fraction, rest') := fractionSpan rest
  if whole = [] ∧ fraction.length ≤ 1 then ([], cs) else (whole ++ fraction, rest')

/-- The decimal number ahead, and what follows. -/
def floatSpan (cs : List Char) : List Char × List Char :=
  let (sign, rest) := signSpan cs
  let (mantissa, rest₁) := mantissaSpan rest
  if mantissa = [] then ([], cs)
  else
    let (exponent, rest₂) := exponentSpan rest₁
    (sign ++ mantissa ++ exponent, rest₂)

/-- The decimal number at the start of a text. -/
def ofFloatPrefix (s : String) : Float :=
  let cs := s.toList.dropWhile Unicode.isWhitespace
  if Text.startsWith "Infinity".toList (signSpan cs).2 then
    if cs.head? = some '-' then -infinity else infinity
  else (Decimal.read? (floatSpan cs).1).getD nan

theorem digitSpan_append (cs : List Char) : (digitSpan cs).1 ++ (digitSpan cs).2 = cs :=
  List.takeWhile_append_dropWhile

theorem signSpan_append (cs : List Char) : (signSpan cs).1 ++ (signSpan cs).2 = cs := by
  unfold signSpan
  split <;> rfl

theorem fractionSpan_append (cs : List Char) : (fractionSpan cs).1 ++ (fractionSpan cs).2 = cs := by
  unfold fractionSpan
  split
  · rename_i rest
    simp [digitSpan_append rest]
  · rfl

theorem exponentSpan_append (cs : List Char) : (exponentSpan cs).1 ++ (exponentSpan cs).2 = cs := by
  unfold exponentSpan
  split
  · rfl
  · rename_i c rest
    split
    · simp [digitSpan_append, signSpan_append]
    · rfl

theorem mantissaSpan_append (cs : List Char) : (mantissaSpan cs).1 ++ (mantissaSpan cs).2 = cs := by
  unfold mantissaSpan
  simp only
  split
  · rfl
  · simp [fractionSpan_append, digitSpan_append]

/-- The number at the start of a text and what follows it make up the text. -/
theorem floatSpan_append (cs : List Char) : (floatSpan cs).1 ++ (floatSpan cs).2 = cs := by
  unfold floatSpan
  simp only
  split
  · rfl
  · simp [exponentSpan_append, mantissaSpan_append, signSpan_append]

end Numeral

/-- The value as a number. -/
def Value.toNumber : Value → Float
  | .undefined => Numeral.nan
  | .null => 0.0
  | .boolean b => if b then 1.0 else 0.0
  | .number x => x
  | .string s => Numeral.ofText s
  | .array id items => Numeral.ofText (Value.array id items).toText
  | _ => Numeral.nan

end DataBinding
