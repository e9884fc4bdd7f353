import DataBinding.Value.Numeral

/-!
# Equalities of values

Strict equality compares what has an identity by it, loose equality turns values into numbers and
texts before it compares, and structural equality looks into arrays and objects.

Results:

* `Value.looseEq_of_isNullish`: undefined and null are loosely equal to each other and to nothing else.
-/

namespace DataBinding.Value

/-- Are the values strictly equal? -/
def strictEq : Value → Value → Bool
  | undefined, undefined | null, null => true
  | boolean a, boolean b => a == b
  | number a, number b => a == b
  | string a, string b => a == b
  | array a _, array b _ | object a _, object b _ | regex a _, regex b _ => a == b
  | function a _, function b _ => a == b
  | _, _ => false

/-- Do values compare as strictly equal, or are both not-a-number? -/
def sameValue (a b : Value) : Bool :=
  match a, b with
  | number x, number y => (x.isNaN && y.isNaN) || x == y
  | _, _ => a.strictEq b

/-- The value, with a truth value as a number. -/
def counted : Value → Value
  | boolean b => number (boolean b).toNumber
  | v => v

/-- Are the values equal, where a number and a text are compared as numbers? -/
def sameCount (a b : Value) : Bool :=
  match a, b with
  | number x, string s => x == Numeral.ofText s
  | string s, number x => Numeral.ofText s == x
  | a, b => a.strictEq b

/-- Are the values loosely equal? Undefined and null equal each other only. Truth values count as
    numbers, and what has an identity counts as its text beside what has none. -/
def looseEq (a b : Value) : Bool :=
  if a.isNullish || b.isNullish then a.isNullish && b.isNullish
  else
    let x := a.counted
    let y := b.counted
    sameCount (if y.isPrimitive then x.primitive else x) (if x.isPrimitive then y.primitive else y)

/-- Undefined and null are loosely equal to each other and to nothing else. -/
theorem looseEq_of_isNullish {a : Value} (h : a.isNullish = true) (b : Value) :
    looseEq a b = b.isNullish := by
  simp [looseEq, h]

mutual

/-- Do the values have the same structure? Not-a-number is like itself, regular expressions compare by
    their text, functions by identity. -/
def alike : Value → Value → Bool
  | undefined, undefined | null, null => true
  | boolean a, boolean b => a == b
  | number a, number b => a == b || (a.isNaN && b.isNaN)
  | string a, string b => a == b
  | array _ xs, array _ ys => alikeItems xs ys
  | object _ xs, object _ ys => alikeEntries xs ys
  | regex _ a, regex _ b => a.source == b.source && a.flags == b.flags
  | function a _, function b _ => a == b
  | _, _ => false

/-- Do the elements have the same structure one by one? -/
def alikeItems : List Value → List Value → Bool
  | [], [] => true
  | x :: xs, y :: ys => alike x y && alikeItems xs ys
  | _, _ => false

/-- Do the entries have the same names and structure one by one? -/
def alikeEntries : List (String × Value) → List (String × Value) → Bool
  | [], [] => true
  | (k, x) :: xs, (l, y) :: ys => k == l && alike x y && alikeEntries xs ys
  | _, _ => false

end

end DataBinding.Value
