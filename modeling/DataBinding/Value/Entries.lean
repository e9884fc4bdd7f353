import DataBinding.Value.Member

/-!
# Listings of entries

The entries of an object are listed in the order of a dictionary, the elements of an array and the
characters of a string under the spelling of their position.

Results:

* `Value.entries_string`: the characters of a string are listed in order.
-/

namespace DataBinding

/-- What is listed of the entries of a value. -/
inductive Listing where
  | keys
  | values
  | entries
  deriving DecidableEq, Repr

/-- The name of the listing. -/
def Listing.name : Listing → String
  | keys => "keys"
  | values => "values"
  | entries => "entries"

namespace Value

/-- Values under the spelling of their position. -/
def numbered (items : List Value) : List (String × Value) :=
  items.zipIdx.map fun (v, i) => (toString i, v)

/-- The entries of a value, by name. -/
def entries : Value → List (String × Value)
  | object _ members => members
  | array _ items => numbered items
  | string s => numbered (s.toList.map ofChar)
  | _ => []

/-- The characters of a string are listed in order. -/
theorem entries_string (s : String) :
    (string s).entries.map Prod.snd = s.toList.map ofChar := by
  simp [entries, numbered, Function.comp_def]

/-- An entry as a value. -/
def ofEntry (e : String × Value) : Fresh Value := Fresh.array [string e.1, e.2]

/-- What a listing gives for an entry. -/
def listed (l : Listing) (e : String × Value) : Fresh Value :=
  match l with
  | .keys => return string e.1
  | .values => return e.2
  | .entries => ofEntry e

/-- A listing of the entries of a value. -/
def list (l : Listing) (v : Value) : Fresh Value := do
  let items ← v.entries.mapM (listed l)
  Fresh.array items

end Value

end DataBinding
