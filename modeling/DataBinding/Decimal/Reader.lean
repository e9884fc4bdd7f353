import DataBinding.Decimal.Binary

/-!
# Reading numbers

Decimal texts, and runs of digits in another base.

A decimal text has an optional sign, digits with at most one point among or around them, and an
optional exponent. It stands for the nearest double.
-/

namespace DataBinding.Decimal

/-- The value of a digit in a base of at most 36. Letters of either case count from ten. -/
def digitValue? (base : Nat) (c : Char) : Option Nat :=
  let n := c.toNat
  let v :=
    if c.isDigit then n - 48
    else if 'a' ≤ c ∧ c ≤ 'z' then n - 97 + 10
    else if 'A' ≤ c ∧ c ≤ 'Z' then n - 65 + 10
    else base
  if v < base then some v else none

/-- The natural number of a run of decimal digits. -/
def natOfDigits (ds : List Char) : Nat := ds.foldl (fun n c => 10 * n + (c.toNat - 48)) 0

/-- The double nearest to `n · 10 ^ e`. Exponents far outside the range of doubles are not
    expanded. -/
def scaled (n : Nat) (e : Int) : Float :=
  if n = 0 then 0.0
  else
    let top := (Nat.toDigits 10 n).length + e
    if top < -330 then 0.0
    else if 310 < top then 1.0 / 0.0
    else if 0 ≤ e then nearest (n * powTen e.toNat) 1
    else nearest n (powTen (-e).toNat)

/-- The parts of an unsigned decimal text. -/
structure Parts where
  whole : List Char
  fraction : List Char
  exponent : Int

/-- The double of the parts. -/
def Parts.toFloat (p : Parts) : Float :=
  scaled (natOfDigits (p.whole ++ p.fraction)) (p.exponent - p.fraction.length)

/-- A sign and what follows it; no sign counts as plus. -/
def takeSign : List Char → Bool × List Char
  | '-' :: rest => (true, rest)
  | '+' :: rest => (false, rest)
  | cs => (false, cs)

/-- The exponent at the end of a decimal text: nothing, or `e`, a sign and digits. -/
def readExponent? : List Char → Option Int
  | [] => some 0
  | c :: rest =>
    if c = 'e' ∨ c = 'E' then
      let (negative, ds) := takeSign rest
      if ds.isEmpty || !ds.all Char.isDigit then none
      else
        let n : Int := natOfDigits ds
        some (if negative then -n else n)
    else none

/-- The parts of an unsigned decimal text with at least one digit before its exponent. -/
def readParts? (cs : List Char) : Option Parts :=
  let whole := cs.takeWhile Char.isDigit
  let rest := cs.dropWhile Char.isDigit
  let (fraction, rest) := match rest with
    | '.' :: more => (more.takeWhile Char.isDigit, more.dropWhile Char.isDigit)
    | _ => ([], rest)
  if whole.isEmpty && fraction.isEmpty then none
  else (readExponent? rest).map fun e => ⟨whole, fraction, e⟩

/-- The double nearest to a decimal text. -/
def read? (cs : List Char) : Option Float :=
  let (negative, rest) := takeSign cs
  (readParts? rest).map fun p => if negative then -p.toFloat else p.toFloat

/-- The value of a run of digits in a base, added up digit by digit in doubles. The run must not be
    empty. -/
def readBase? (base : Nat) (ds : List Char) : Option Float :=
  if ds.isEmpty then none
  else ds.foldlM (fun acc c => (digitValue? base c).map fun d => acc * Float.ofNat base + Float.ofNat d) 0.0

end DataBinding.Decimal
