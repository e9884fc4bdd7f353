import DataBinding.Decimal.Shortest

/-!
# Layouts of decimal numbers

A `Layout` says how a number is written from its shortest digits: between which magnitudes all digits
stand around a decimal point, and whether a whole number shows the point. All other magnitudes are
written with a mantissa and an exponent.
-/

namespace DataBinding.Decimal

/-- How a finite number is written. -/
structure Layout where
  tie : Tie
  /-- Numbers of at least this power of ten are written without exponent. -/
  least : Option Int
  /-- Numbers below this power of ten are written without exponent. -/
  bound : Option Int
  /-- A whole number without exponent ends in `.0`. -/
  wholePoint : Bool

/-- Is a number in `[10 ^ (point - 1), 10 ^ point)` written without exponent? -/
def Layout.isPlain (l : Layout) (point : Int) : Bool :=
  l.least.all (fun k => decide (k < point)) && l.bound.all (fun k => decide (point ≤ k))

/-- All digits around a decimal point. -/
def plainText (wholePoint : Bool) (d : Digits) : List Char :=
  if d.point ≤ 0 then '0' :: '.' :: (List.replicate (-d.point).toNat '0' ++ d.digits)
  else
    let whole := d.point.toNat
    if d.digits.length ≤ whole then
      d.digits ++ List.replicate (whole - d.digits.length) '0' ++ (if wholePoint then ['.', '0'] else [])
    else d.digits.take whole ++ '.' :: d.digits.drop whole

/-- One digit before the decimal point, the others after it, and the power of ten with its sign. -/
def exponentText (d : Digits) : List Char :=
  let e := d.point - 1
  d.digits.take 1 ++ (if d.digits.length ≤ 1 then [] else '.' :: d.digits.drop 1) ++
    'e' :: (if e < 0 then '-' else '+') :: natDigits e.natAbs

/-- The text of an exact number. Zero is written `0` in every layout, with the sign it has. -/
def Layout.write (l : Layout) (b : Binary) : List Char :=
  let sign := if b.negative then ['-'] else []
  if b.mantissa = 0 then sign ++ ['0']
  else
    let d := shortest l.tie b
    sign ++ (if l.isPlain d.point then plainText l.wholePoint d else exponentText d)

/-! ## The layouts in use -/

/-- The text of a number as a value: no exponent from `1e-6` up to `1e21`. -/
def valueLayout : Layout := ⟨.up, some (-6), some 21, false⟩

/-- The text of a number in source: never an exponent. -/
def sourceLayout : Layout := ⟨.up, none, none, false⟩

/-- The text of a number in JSON that is not a small integer: no exponent from `1e-5` up to `1e16`,
    and a point in whole numbers. -/
def jsonLayout : Layout := ⟨.toEven, some (-5), some 16, true⟩

/-- The text of a number as a value. Both zeros are written `0`. -/
def valueText (x : Float) : String :=
  match Binary.ofFloat? x with
  | some b => if b.mantissa = 0 then "0" else String.ofList (valueLayout.write b)
  | none => if x.isNaN then "NaN" else if x < 0.0 then "-Infinity" else "Infinity"

/-- The text of a number in source, with all its digits. -/
def sourceText (x : Float) : String :=
  match Binary.ofFloat? x with
  | some b => String.ofList (sourceLayout.write b)
  | none => if x.isNaN then "NaN" else if x < 0.0 then "-inf" else "inf"

end DataBinding.Decimal
