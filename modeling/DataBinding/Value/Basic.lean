import DataBinding.Dict
import DataBinding.Expr.Basic
import DataBinding.Regex.Replace

/-!
# Runtime values

The values that expressions evaluate to. Arrays, objects, regular expressions and functions have an
identity: a number that no other such value shares. They never change, so a copy is as good as the
value itself.

New values are made in `Fresh`, which counts the identities given out.

Results:

* `Value.isTruthy_of_isNullish`: what is undefined or null is not true.
-/

namespace DataBinding

/-- A function of one number. -/
inductive NumberFunction where
  | abs
  | ceil
  | floor
  | round
  | sqrt
  | trunc
  | sign
  deriving DecidableEq, Repr

/-- A function that is no arrow function. -/
inductive Native where
  | isNaN
  | isFinite
  | parseInt
  | parseFloat
  | encodeComponent
  | decodeComponent
  | number
  | string
  | boolean
  | isArray
  | stringify
  | parseJson
  | keys
  | values
  | entries
  | ofNumber (f : NumberFunction)
  | max
  | min
  | pow
  /-- A function of the host, by its name -/
  | host (name : String)
  deriving DecidableEq, Repr

/-- The name of the function. -/
def NumberFunction.name : NumberFunction → String
  | abs => "abs"
  | ceil => "ceil"
  | floor => "floor"
  | round => "round"
  | sqrt => "sqrt"
  | trunc => "trunc"
  | sign => "sign"

/-- The name of the function. -/
def Native.name : Native → String
  | isNaN => "isNaN"
  | isFinite => "isFinite"
  | parseInt => "parseInt"
  | parseFloat => "parseFloat"
  | encodeComponent => "encodeURIComponent"
  | decodeComponent => "decodeURIComponent"
  | number => "Number"
  | string => "String"
  | boolean => "Boolean"
  | isArray => "isArray"
  | stringify => "stringify"
  | parseJson => "parse"
  | keys => "keys"
  | values => "values"
  | entries => "entries"
  | ofNumber f => f.name
  | max => "max"
  | min => "min"
  | pow => "pow"
  | host name => name

mutual

/-- A runtime value. -/
inductive Value where
  | undefined
  | null
  | boolean (b : Bool)
  | number (x : Float)
  | string (s : String)
  | array (id : Nat) (items : List Value)
  /-- An object, its entries in the order of a dictionary -/
  | object (id : Nat) (entries : List (String × Value))
  | regex (id : Nat) (re : Regex)
  | function (id : Nat) (f : Function)

/-- A function. -/
inductive Function where
  | native (f : Native)
  /-- An arrow function with the locals that were in sight where it was made -/
  | closure (params : List String) (body : Expr) (captured : List (String × Value))

end

instance : Inhabited Value := ⟨.undefined⟩

namespace Value

/-- Is the value undefined or null? -/
def isNullish : Value → Bool
  | undefined | null => true
  | _ => false

/-- Is the value without identity? -/
def isPrimitive : Value → Bool
  | undefined | null | boolean _ | number _ | string _ => true
  | _ => false

/-- Does the value count as true? -/
def isTruthy : Value → Bool
  | undefined | null => false
  | boolean b => b
  | number x => x != 0.0 && !x.isNaN
  | string s => !s.isEmpty
  | _ => true

/-- The name of the type. -/
def typeName : Value → String
  | undefined => "undefined"
  | boolean _ => "boolean"
  | number _ => "number"
  | string _ => "string"
  | function .. => "function"
  | null | array .. | object .. | regex .. => "object"

/-- What is undefined or null is not true. -/
theorem isTruthy_of_isNullish {v : Value} (h : v.isNullish = true) : v.isTruthy = false := by
  cases v <;> simp_all [isNullish, isTruthy]

end Value

/-! ## New values -/

/-- Making of values. The state is the next identity to give out. -/
abbrev Fresh (α : Type) := StateM Nat α

namespace Fresh

/-- A new identity. -/
def identity : Fresh Nat := modifyGet fun n => (n, n + 1)

/-- A new array. -/
def array (items : List Value) : Fresh Value := do
  let id ← identity
  return .array id items

/-- A new object. -/
def object (entries : Dict Value) : Fresh Value := do
  let id ← identity
  return .object id entries

/-- A new regular expression. -/
def regex (re : Regex) : Fresh Value := do
  let id ← identity
  return .regex id re

/-- A new function. -/
def function (f : Function) : Fresh Value := do
  let id ← identity
  return .function id f

/-- A new object of functions under their names, with other entries. -/
def library (functions : List Native) (others : List (String × Value)) : Fresh Value := do
  let made ← functions.mapM fun f => do
    let v ← function (.native f)
    return (f.name, v)
  object (Dict.ofList (others ++ made))

end Fresh

end DataBinding
