import DataBinding.Value.Equality
import DataBinding.Json.Form

/-!
# Values and JSON

The JSON form of a value, and the value of a JSON form. What has no JSON form becomes null; as an entry
of an object what is undefined or a function is left out.

Results:

* `Value.toJson_undefined`: what is undefined becomes null.
-/

namespace DataBinding.Value

/-- The JSON form of a number. Zero has no sign, and what is not finite becomes null. -/
def numberJson (x : Float) : Json :=
  if x.isFinite then .number (if x == 0.0 then 0.0 else x) else .null

/-- Is the value left out as an entry of an object? -/
def isLeftOut : Value → Bool
  | undefined | function .. => true
  | _ => false

mutual

/-- The JSON form of a value. -/
def toJson : Value → Json
  | undefined | null | function .. => .null
  | boolean b => .bool b
  | number x => numberJson x
  | string s => .string s
  | array _ items => .array (itemsJson items)
  | object _ entries => .object (entriesJson entries)
  | regex .. => .object []

/-- The JSON forms of elements. -/
def itemsJson : List Value → List Json
  | [] => []
  | v :: rest => toJson v :: itemsJson rest

/-- The JSON forms of the entries that are not left out. -/
def entriesJson : List (String × Value) → List (String × Json)
  | [] => []
  | (name, v) :: rest =>
    if v.isLeftOut then entriesJson rest else (name, toJson v) :: entriesJson rest

end

mutual

/-- A new value for a JSON form. -/
def ofJson : Json → Fresh Value
  | .null => return null
  | .bool b => return boolean b
  | .number x => return number x
  | .string s => return string s
  | .array items => do
    let items ← ofItems items
    Fresh.array items
  | .object members => do
    let entries ← ofMembers members
    Fresh.object entries

/-- New values for elements. -/
def ofItems : List Json → Fresh (List Value)
  | [] => return []
  | j :: rest => do
    let v ← ofJson j
    let vs ← ofItems rest
    return v :: vs

/-- New values for members. -/
def ofMembers : List (String × Json) → Fresh (List (String × Value))
  | [] => return []
  | (name, j) :: rest => do
    let v ← ofJson j
    let vs ← ofMembers rest
    return (name, v) :: vs

end

/-- What is undefined becomes null. -/
theorem toJson_undefined : undefined.toJson = .null := by rw [toJson]

end DataBinding.Value
