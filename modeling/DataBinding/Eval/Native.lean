import DataBinding.Eval.Basic
import DataBinding.Method.Basic
import DataBinding.Text.Percent
import DataBinding.Value.Entries
import DataBinding.Value.Json

/-!
# Built-in functions

The functions that are no arrow functions, by what they give for their arguments.

Results:

* `Native.call_boolean`: the truth value of nothing is false.
* `extreme_nil`: the extreme of no numbers is the bound to start from.
-/

namespace DataBinding

/-! ## Functions of numbers -/

/-- The argument at a position as a number; a missing one is not-a-number. -/
def argumentNumber (args : List Value) (i : Nat) : Float := (argument args i).toNumber

/-- The sign of a number. Zeros and not-a-number are their own sign. -/
def signOf (x : Float) : Float := if 0.0 < x then 1.0 else if x < 0.0 then -1.0 else x

/-- The value of the function. Rounding takes a half up. -/
def NumberFunction.apply : NumberFunction → Float → Float
  | abs => Float.abs
  | ceil => Float.ceil
  | floor => Float.floor
  | round => fun x => (x + 0.5).floor
  | sqrt => Float.sqrt
  | trunc => Decimal.truncate
  | sign => signOf

/-- The number among `x` and the others that comes before all of them; not-a-number if one of them is. -/
def extreme (before : Float → Float → Bool) (x : Float) (others : List Float) : Float :=
  others.foldl (fun best y =>
    if best.isNaN || y.isNaN then Numeral.nan else if before y best then y else best) x

/-- The extreme of no numbers is the bound to start from. -/
theorem extreme_nil (before : Float → Float → Bool) (x : Float) : extreme before x [] = x := rfl

/-- The largest of the numbers. -/
def largest (xs : List Float) : Float := extreme (fun y best => best < y) (-Numeral.infinity) xs

/-- The smallest of the numbers. -/
def smallest (xs : List Float) : Float := extreme (fun y best => y < best) Numeral.infinity xs

/-- The base that an argument names for reading integers; zero if it is missing or not-a-number. -/
def baseOfArgument : Option Value → Int
  | some v => Decimal.clampInt (-0x8000000000000000) 0x7FFFFFFFFFFFFFFF v.toNumber
  | none => 0

/-! ## Functions of texts -/

/-- The JSON text of a value; undefined if it has none. -/
def stringified : Value → Value
  | .undefined | .function .. => .undefined
  | v => .string v.toJson.compact

/-- The value of a JSON text. -/
def parsedJson (text : String) : Eval Value :=
  match Json.read? text with
  | some j => Eval.ofFresh (Value.ofJson j)
  | none => Eval.fault .invalidJson

/-- A listing of the entries of a value. -/
def listing (l : Listing) (v : Value) : Eval Value :=
  if v.isNullish then Eval.fault (.nullishListing l.name v.toText) else Eval.ofFresh (v.list l)

/-! ## Calls -/

/-- Is the value an array? -/
def Value.isArray : Value → Bool
  | array .. => true
  | _ => false

/-- Calls a built-in function. -/
def Native.call (host : Host) (f : Native) (this : Value) (args : List Value) : Eval Value := do
  let first := argument args 0
  match f with
  | isNaN => return .boolean (argumentNumber args 0).isNaN
  | isFinite => return .boolean (argumentNumber args 0).isFinite
  | parseInt => return .number (Numeral.ofIntPrefix first.toText (baseOfArgument args[1]?))
  | parseFloat => return .number (Numeral.ofFloatPrefix first.toText)
  | encodeComponent => return .string (Text.Percent.encode first.toText)
  | decodeComponent =>
    match Text.Percent.decode? first.toText with
    | some s => return .string s
    | none => Eval.fault .malformedComponent
  | number => return .number (if args.isEmpty then 0.0 else first.toNumber)
  | string => return .string (if args.isEmpty then "" else first.toText)
  | boolean => return .boolean first.isTruthy
  | isArray => return .boolean first.isArray
  | stringify => return stringified first
  | parseJson => parsedJson first.toText
  | keys => listing .keys first
  | values => listing .values first
  | entries => listing .entries first
  | ofNumber g => return .number (g.apply (argumentNumber args 0))
  | max => return .number (largest (args.map Value.toNumber))
  | min => return .number (smallest (args.map Value.toNumber))
  | pow => return .number ((argumentNumber args 0).pow (argumentNumber args 1))
  | .host name => Eval.ofAnswer (host.call name this args)

/-- The truth value of nothing is false. -/
theorem Native.call_boolean (host : Host) (this : Value) :
    Native.boolean.call host this [] = pure (.boolean false) := rfl

end DataBinding
