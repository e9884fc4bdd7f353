import DataBinding.Value.Basic
import DataBinding.Text.Visible

/-!
# The texts of values

`toText` is the text that a value has as a string, `shown` the one for diagnosis.

Results:

* `Value.toText_string`: a string is its own text.
-/

namespace DataBinding.Value

/-- The text of a regular expression. -/
def regexText (re : Regex) : String := "/" ++ re.source ++ "/" ++ re.flags

mutual

/-- The value as a string. -/
def toText : Value → String
  | undefined => "undefined"
  | null => "null"
  | boolean b => if b then "true" else "false"
  | number x => Decimal.valueText x
  | string s => s
  | array _ items => ",".intercalate (itemTexts items)
  | object .. => "[object Object]"
  | regex _ re => regexText re
  | function .. => "function () \x7b [native code] \x7d"

/-- The elements of an array as strings. What is undefined or null is left blank. -/
def itemTexts : List Value → List String
  | [] => []
  | v :: rest => (if v.isNullish then "" else toText v) :: itemTexts rest

end

/-- The value, or its text if it has an identity. -/
def primitive (v : Value) : Value := if v.isPrimitive then v else string v.toText

mutual

/-- The value for diagnosis. -/
def shown : Value → String
  | undefined => "undefined"
  | null => "null"
  | boolean b => if b then "true" else "false"
  | number x => Decimal.valueText x
  | string s => Text.visible s
  | array _ items => "[" ++ ", ".intercalate (shownItems items) ++ "]"
  | object _ entries => "\x7b" ++ ", ".intercalate (shownEntries entries) ++ "\x7d"
  | regex _ re => regexText re
  | function _ (.native f) => "[Function: " ++ f.name ++ "]"
  | function _ (.closure params _ _) => "[Function (" ++ ", ".intercalate params ++ ")]"

/-- The elements of an array for diagnosis. -/
def shownItems : List Value → List String
  | [] => []
  | v :: rest => shown v :: shownItems rest

/-- The entries of an object for diagnosis. -/
def shownEntries : List (String × Value) → List String
  | [] => []
  | (name, v) :: rest => (Text.visible name ++ ": " ++ shown v) :: shownEntries rest

end

/-- A string is its own text. -/
theorem toText_string (s : String) : (string s).toText = s := by rw [toText]

end DataBinding.Value
