import DataBinding.Method.Array
import DataBinding.Method.Text

/-!
# The methods of a value

Strings, arrays and regular expressions have methods; a name that is no method of a value is left to
its members.

Results:

* `Value.method?_of_isNullish`: what is undefined or null has no method.
-/

namespace DataBinding

/-- A method of a value. -/
inductive Method where
  | text (m : TextMethod) (s : String)
  | array (m : ArrayMethod) (this : Value) (items : List Value)
  /-- Does a regular expression match a text? -/
  | test (re : Regex)

/-- The method of a value under a name. -/
def Value.method? (v : Value) (name : String) : Option Method :=
  match v with
  | .string s => (TextMethod.ofName? name).map fun m => .text m s
  | .array _ items => (ArrayMethod.ofName? name).map fun m => .array m v items
  | .regex _ re => if name = "test" then some (.test re) else none
  | _ => none

/-- Calls a method. -/
def Method.call (call : Caller) (m : Method) (args : List Value) : Eval Value :=
  match m with
  | text m s => m.call call s args
  | array m this items => m.call call this items args
  | test re => return .boolean (re.isMatch (argumentText args 0).toList)

/-- What is undefined or null has no method. -/
theorem Value.method?_of_isNullish {v : Value} (h : v.isNullish = true) (name : String) :
    v.method? name = none := by
  cases v <;> simp_all [isNullish, method?]

end DataBinding
