import DataBinding.Decimal.Binary

/-!
# The fewest digits that read back

Every double is the nearest double to all numbers of an interval around it. Its shortest decimal has
the fewest digits among the decimals of that interval, and among those it is the nearest to the
double. Where two decimals of that length are equally near, a `Tie` decides.

The test runs over the grids of one, two, … seventeen digits, in exact arithmetic: on each grid only
the two neighbours of the value can be the nearest. Seventeen digits always suffice.

Results:

* `stripZeros_getLast?_ne`: stripped digits do not end in zero.
-/

namespace DataBinding.Decimal

/-- Which of two equally near decimals is taken. -/
inductive Tie where
  /-- The one whose last digit is even. -/
  | toEven
  /-- The larger one. -/
  | up
  deriving DecidableEq, Repr

/-- The number `0.d₁d₂… · 10 ^ point`. -/
structure Digits where
  digits : List Char
  point : Int
  deriving DecidableEq, Repr

/-- The decimal digits of a natural number. -/
def natDigits (n : Nat) : List Char := Nat.toDigits 10 n

/-- The digits without the zeros at their end. -/
def stripZeros (ds : List Char) : List Char := (ds.reverse.dropWhile (· == '0')).reverse

/-- Stripped digits do not end in zero. -/
theorem stripZeros_getLast?_ne (ds : List Char) : (stripZeros ds).getLast? ≠ some '0' := by
  intro h
  have h' : (ds.reverse.dropWhile (· == '0')).head? = some '0' := by
    simpa [stripZeros, List.getLast?_reverse] using h
  have := List.head?_dropWhile_not (p := (· == '0')) (l := ds.reverse)
  rw [h'] at this
  simp at this

/-- The number `n · 10 ^ e` in digits. -/
def Digits.ofScaled (n : Nat) (e : Int) : Digits :=
  let ds := natDigits n
  ⟨stripZeros ds, ds.length + e⟩

/-- The exponent `k` with `10 ^ k ≤ num / den < 10 ^ (k + 1)`. -/
def decimalExponent (num den : Nat) : Int :=
  if den ≤ num then (natDigits (num / den)).length - 1
  else -(natDigits ((den - 1) / num)).length

/-- The interval of numbers nearest to `mantissa · 2 ^ exponent`, in quarters of the unit
    `2 ^ exponent`. Below a power of two the doubles are twice as dense. -/
structure Interval where
  low : Nat
  value : Nat
  high : Nat
  closed : Bool

/-- The interval around a positive double. Its ends belong to it when the mantissa is even. -/
def Interval.around (b : Binary) : Interval where
  low := 4 * b.mantissa - (if b.mantissa = topBit ∧ minExponent < b.exponent then 1 else 2)
  value := 4 * b.mantissa
  high := 4 * b.mantissa + 2
  closed := b.mantissa % 2 == 0

/-- Does `n / unit` lie in the interval, where its ends are scaled by `scale / unit`? -/
def Interval.holds (i : Interval) (scale n : Nat) : Bool :=
  if i.closed then decide (i.low * scale ≤ n ∧ n ≤ i.high * scale)
  else decide (i.low * scale < n ∧ n < i.high * scale)

/-- The decimal nearest to the value among the multiples of `10 ^ e` in the interval. -/
def Interval.onGrid? (i : Interval) (tie : Tie) (exponent e : Int) : Option Nat :=
  let unit := exponent - 2
  let scale := powTwo unit.toNat * powTen (-e).toNat
  let step := powTwo (-unit).toNat * powTen e.toNat
  let n := i.value * scale / step
  let below := i.holds scale (n * step) && n != 0
  let above := i.holds scale ((n + 1) * step)
  let gap := 2 * (i.value * scale - n * step)
  if below && above then
    if gap < step then some n
    else if step < gap then some (n + 1)
    else match tie with
      | .up => some (n + 1)
      | .toEven => if n % 2 = 0 then some n else some (n + 1)
  else if below then some n
  else if above then some (n + 1)
  else none

/-- The shortest digits that read back as the positive double `b`. -/
def shortest (tie : Tie) (b : Binary) : Digits :=
  let i := Interval.around b
  let (num, den) := scaleByPowTwo b.mantissa 1 (-b.exponent)
  let top := decimalExponent num den
  let found := (List.range 17).findSome? fun (k : Nat) =>
    (i.onGrid? tie b.exponent (top - k)).map fun n => Digits.ofScaled n (top - k)
  found.getD (Digits.ofScaled num 0)

end DataBinding.Decimal
