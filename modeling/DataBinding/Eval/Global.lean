import DataBinding.Eval.Native

/-!
# Built-in values

The values of the built-in names. Every use of a name makes its functions anew.

Results:

* `globalValue?_undefined`: the name of undefined stands for it.
-/

namespace DataBinding

/-- Names of built-in values that are not available to evaluations. -/
def unavailableNames : List String :=
  ["Promise", "Symbol", "Error", "RegExp", "encodeURI", "decodeURI"]

/-- The ratio of the circumference of a circle to its diameter. -/
def pi : Float := Float.ofBits 0x400921FB54442D18

/-- The base of the natural logarithm. -/
def euler : Float := Float.ofBits 0x4005BF0A8B145769

/-- The functions of numbers, and two constants. -/
def mathLibrary : Fresh Value :=
  Fresh.library [.ofNumber .abs, .ofNumber .ceil, .ofNumber .floor, .ofNumber .round, .ofNumber .sqrt,
    .ofNumber .trunc, .ofNumber .sign, .max, .min, .pow] [("PI", .number pi), ("E", .number euler)]

/-- The functions that are built-in values by themselves. -/
def globalFunctions : List Native :=
  [.isNaN, .isFinite, .parseInt, .parseFloat, .encodeComponent, .decodeComponent, .number, .string,
    .boolean]

/-- The value of a built-in name. -/
def globalValue? (name : String) : Option (Fresh Value) :=
  match name with
  | "undefined" => some (pure .undefined)
  | "NaN" => some (pure (.number Numeral.nan))
  | "Infinity" => some (pure (.number Numeral.infinity))
  | "Math" => some mathLibrary
  | "JSON" => some (Fresh.library [.stringify, .parseJson] [])
  | "Object" => some (Fresh.library [.keys, .values, .entries] [])
  | "Array" => some (Fresh.library [.isArray] [])
  | other =>
    (globalFunctions.find? fun f => f.name == other).map fun f => Fresh.function (.native f)

/-- The name of undefined stands for it. -/
theorem globalValue?_undefined : globalValue? "undefined" = some (pure .undefined) := rfl

end DataBinding
