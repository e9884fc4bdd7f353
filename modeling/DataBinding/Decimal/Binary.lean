/-!
# Doubles as exact numbers

A finite double is an integer times a power of two. This module reads that form off the bits, rounds
any ratio of natural numbers to the nearest double, and computes from the exact form the remainder
and the integer part that need more than one rounding step.

Results:

* `Binary.mantissa_lt`: a decoded mantissa has at most 53 bits.
* `roundHalfEven_mul`: a quotient without remainder is not rounded.
-/

namespace DataBinding.Decimal

/-- The number `mantissa · 2 ^ exponent`, with a sign that zero keeps too. -/
structure Binary where
  negative : Bool
  mantissa : Nat
  exponent : Int
  deriving DecidableEq, Repr

/-- The exponent of the smallest positive double. -/
def minExponent : Int := -1074

/-- A power of two. -/
def powTwo (n : Nat) : Nat := 1 <<< n

/-- A power of ten. -/
def powTen (n : Nat) : Nat := Nat.pow 10 n

/-- The top bit of a mantissa, which the bits of a double leave out. -/
def topBit : Nat := 0x10000000000000

/-- The exponent field of infinities and of not-a-number. -/
def topField : Nat := 0x7FF

namespace Binary

/-- The exact value of a finite double, by the fields of its bits. -/
def ofFloat? (x : Float) : Option Binary :=
  let bits := x.toBits.toNat
  let negative := bits / 0x8000000000000000 == 1
  let field : Nat := bits / topBit % (topField + 1)
  let fraction := bits % topBit
  if field = topField then none
  else if field = 0 then some ⟨negative, fraction, minExponent⟩
  else some ⟨negative, topBit + fraction, (field : Int) - 1 + minExponent⟩

/-- A decoded mantissa has at most 53 bits. -/
theorem mantissa_lt {x : Float} {b : Binary} (h : ofFloat? x = some b) :
    b.mantissa < 2 * topBit := by
  have pos : 0 < topBit := by decide
  have lt := Nat.mod_lt x.toBits.toNat pos
  simp only [ofFloat?] at h
  split at h
  · simp at h
  · split at h
    · obtain rfl := Option.some.inj h
      simp only
      omega
    · obtain rfl := Option.some.inj h
      simp only
      omega

end Binary

/-! ## Rounding to the nearest double -/

/-- The quotient rounded to the nearest integer, a half to the even one. -/
def roundHalfEven (num den : Nat) : Nat :=
  let q := num / den
  let r := num % den
  if 2 * r < den then q else if 2 * r > den then q + 1 else if q % 2 = 0 then q else q + 1

/-- A quotient without remainder is not rounded. -/
theorem roundHalfEven_mul (n : Nat) {d : Nat} (h : 0 < d) : roundHalfEven (n * d) d = n := by
  simp [roundHalfEven, h]

/-- `num / (den · 2 ^ e)` as a numerator and a denominator. -/
def scaleByPowTwo (num den : Nat) (e : Int) : Nat × Nat :=
  if 0 ≤ e then (num, den * powTwo e.toNat) else (num * powTwo (-e).toNat, den)

/-- The power of two at which the mantissa of the nearest double counts units. -/
def unitExponent (num den : Nat) : Int :=
  let guess : Int := (num.log2 : Int) - den.log2 - 53
  let (n, d) := scaleByPowTwo num den guess
  max minExponent (if n < 2 * topBit * d then guess else guess + 1)

/-- The double nearest to `num / den`, for a positive `den`. Ratios beyond the largest double give
    infinity. -/
def nearest (num den : Nat) : Float :=
  if num = 0 then 0.0
  else
    let e := unitExponent num den
    let (n, d) := scaleByPowTwo num den e
    let bits := (e - minExponent).toNat * topBit + roundHalfEven n d
    Float.ofBits (UInt64.ofNat (min bits (topField * topBit)))

/-- The double of an exact number. -/
def Binary.toFloat (b : Binary) : Float :=
  let (n, d) := scaleByPowTwo b.mantissa 1 (-b.exponent)
  let x := nearest n d
  if b.negative then -x else x

/-! ## Remainder and integer part -/

/-- The remainder of `x / y` that has the sign of `x` and is smaller than `y`. -/
def remainder (x y : Float) : Float :=
  match Binary.ofFloat? x, Binary.ofFloat? y with
  | some a, some b =>
    if b.mantissa = 0 then 0.0 / 0.0
    else
      let e := min a.exponent b.exponent
      let m := a.mantissa * powTwo (a.exponent - e).toNat %
        (b.mantissa * powTwo (b.exponent - e).toNat)
      Binary.toFloat ⟨a.negative, m, e⟩
  | some _, none => if y.isNaN then y else x
  | none, _ => 0.0 / 0.0

/-- The integer part of `x`, toward zero. -/
def truncate (x : Float) : Float := if x < 0.0 then x.ceil else x.floor

/-- The integer part of `x`, as an integer; none for infinities and not-a-number. -/
def toInt? (x : Float) : Option Int :=
  (Binary.ofFloat? x).map fun b =>
    let m : Nat :=
      if 0 ≤ b.exponent then b.mantissa * powTwo b.exponent.toNat
      else b.mantissa / powTwo (-b.exponent).toNat
    if b.negative then -m else m

/-- The integer part of `x` within `lo` and `hi`; not-a-number counts as zero. -/
def clampInt (lo hi : Int) (x : Float) : Int :=
  match toInt? x with
  | some n => max lo (min hi n)
  | none => if x.isNaN then 0 else if x < 0.0 then lo else hi

end DataBinding.Decimal
