import DataBinding.Value.Equality
import DataBinding.Value.Member

/-!
# Operators on values

Results:

* `Value.binary_and`, `Value.binary_or`: the operators that choose give one of their operands.
-/

namespace DataBinding.Value

/-- The value of a unary operator. -/
def unary (v : Value) : UnaryOp → Value
  | .not => boolean (!v.isTruthy)
  | .negate => number (-v.toNumber)
  | .plus => number v.toNumber
  | .typeof => string v.typeName
  | .void => undefined

/-- Is the value a string? -/
def isString : Value → Bool
  | string _ => true
  | _ => false

/-- The sum of numbers, or of texts if one value is a text or has an identity. -/
def add (a b : Value) : Value :=
  let l := a.primitive
  let r := b.primitive
  if l.isString || r.isString then string (l.toText ++ r.toText)
  else number (l.toNumber + r.toNumber)

/-- Does the comparison hold of texts? -/
def compareTexts (op : BinaryOp) (a b : String) : Bool :=
  match op with
  | .less => decide (a < b)
  | .greater => decide (b < a)
  | .lessEqual => !decide (b < a)
  | _ => !decide (a < b)

/-- Does the comparison hold of numbers? None holds of not-a-number. -/
def compareNumbers (op : BinaryOp) (a b : Float) : Bool :=
  match op with
  | .less => decide (a < b)
  | .greater => decide (b < a)
  | .lessEqual => decide (a ≤ b)
  | _ => decide (b ≤ a)

/-- Does the comparison hold? Two texts compare by their code points, anything else as numbers. -/
def compare (op : BinaryOp) (a b : Value) : Bool :=
  match a.primitive, b.primitive with
  | string l, string r => compareTexts op l r
  | l, r => compareNumbers op l.toNumber r.toNumber

/-- Is there a key in an object or an array? -/
def within (key container : Value) : Except TypeFault Value :=
  let name := key.toText
  match container with
  | object _ entries => .ok (boolean (Dict.contains entries name))
  | array _ items =>
    .ok (boolean (name == "length" || (indexOfKey? name).any fun i => decide (i < items.length)))
  | other => .error (.noKeys name other.toText)

/-- The operand that an operator gives without looking at the right one. -/
def chosen? (op : BinaryOp) (left : Value) : Option Value :=
  match op with
  | .and => if left.isTruthy then none else some left
  | .or => if left.isTruthy then some left else none
  | _ => none

/-- The value of a binary operator on two values. -/
def binary (op : BinaryOp) (a b : Value) : Except TypeFault Value :=
  match op with
  | .add => .ok (add a b)
  | .subtract => .ok (number (a.toNumber - b.toNumber))
  | .multiply => .ok (number (a.toNumber * b.toNumber))
  | .divide => .ok (number (a.toNumber / b.toNumber))
  | .modulo => .ok (number (Decimal.remainder a.toNumber b.toNumber))
  | .equal => .ok (boolean (a.looseEq b))
  | .notEqual => .ok (boolean (!a.looseEq b))
  | .strictEqual => .ok (boolean (a.strictEq b))
  | .strictNotEqual => .ok (boolean (!a.strictEq b))
  | .less | .greater | .lessEqual | .greaterEqual => .ok (boolean (compare op a b))
  | .within => within a b
  | .and | .or => .ok ((chosen? op a).getD b)

/-- An operator that chooses gives its left operand or its right one. -/
theorem binary_and (a b : Value) : binary .and a b = .ok (if a.isTruthy then b else a) := by
  simp only [binary, chosen?]
  split <;> rfl

/-- An operator that chooses gives its left operand or its right one. -/
theorem binary_or (a b : Value) : binary .or a b = .ok (if a.isTruthy then a else b) := by
  simp only [binary, chosen?]
  split <;> rfl

end DataBinding.Value
