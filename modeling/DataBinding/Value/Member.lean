import DataBinding.Value.Text
import DataBinding.Decimal.Reader

/-!
# Members of values

Elements of arrays and characters of strings stand under the plain spelling of their position, entries
of objects under their names. Any other key gives undefined; asking what is undefined or null for a
member is a fault.

Results:

* `indexOfKey?_zero`: the first position is spelled `0`.
-/

namespace DataBinding

/-- What an operation cannot be applied to. -/
inductive TypeFault where
  /-- What is undefined or null has no member. -/
  | nullishMember (object name : String)
  | notFunction (name : String)
  /-- The accessor is called without a tag. -/
  | noTag
  /-- The method of an array asks for a function. -/
  | noCallback (method : String)
  /-- An array without elements has no first value to start from. -/
  | emptyReduce
  /-- The value on the right of `in` has no keys. -/
  | noKeys (key value : String)
  /-- The text is no JSON. -/
  | invalidJson
  | malformedComponent
  /-- What is undefined or null has no entries to list. -/
  | nullishListing (listing value : String)
  deriving DecidableEq, Repr

/-- The report of the fault. -/
def TypeFault.message : TypeFault → String
  | nullishMember object name =>
    "Cannot read properties of " ++ object ++ " (reading '" ++ name ++ "')"
  | notFunction name => name ++ " is not a function"
  | noTag => "$_get_by_any() requires a type tag"
  | noCallback method => "." ++ method ++ "() requires a function argument"
  | emptyReduce => "Reduce of empty array with no initial value"
  | noKeys key value => "Cannot use 'in' operator to search for '" ++ key ++ "' in " ++ value
  | invalidJson => "JSON.parse"
  | malformedComponent => "URI malformed"
  | nullishListing listing value => "Object." ++ listing ++ "() called on " ++ value

/-- The position that a key spells: digits without a leading zero. -/
def indexOfKey? (key : String) : Option Nat :=
  match key.toList with
  | [] => none
  | c :: rest =>
    if (c :: rest).all Char.isDigit && (rest.isEmpty || c != '0') then
      some (Decimal.natOfDigits (c :: rest))
    else none

/-- The first position is spelled `0`. -/
theorem indexOfKey?_zero : indexOfKey? "0" = some 0 := by decide

namespace Value

/-- The value of a number that counts. -/
def ofNat (n : Nat) : Value := number (Float.ofNat n)

/-- A string of one character. -/
def ofChar (c : Char) : Value := string c.toString

/-- The member under a name, of anything but undefined and null. -/
def memberNamed (name : String) : Value → Value
  | string s =>
    if name = "length" then ofNat s.length
    else ((indexOfKey? name).bind fun i => s.toList[i]?.map ofChar).getD undefined
  | array _ items =>
    if name = "length" then ofNat items.length
    else ((indexOfKey? name).bind fun i => items[i]?).getD undefined
  | object _ entries => (Dict.get? entries name).getD undefined
  | regex _ re =>
    if name = "source" then string re.source
    else if name = "flags" then string re.flags
    else if name = "global" then boolean re.isGlobal
    else undefined
  | _ => undefined

/-- The member under a key. -/
def member (object key : Value) : Except TypeFault Value :=
  if object.isNullish then .error (.nullishMember object.toText key.toText)
  else .ok (object.memberNamed key.toText)

end Value

end DataBinding
