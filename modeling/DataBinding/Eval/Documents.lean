import DataBinding.Eval.Basic
import DataBinding.Value.Json

/-!
# Data in documents

The data of a host that holds one JSON document per tag.

Results:

* `Documents.walk_of_isNullish`: nothing is found beyond what is undefined or null.
-/

namespace DataBinding

/-- Documents by their tags. -/
abbrev Documents := Dict Value

namespace Documents

/-- The value that a list of keys leads to. Beyond what is undefined or null everything is
    undefined. -/
def walk (v : Value) : List Value → Value
  | [] => v
  | k :: ks => if v.isNullish then .undefined else walk (v.memberNamed k.toText) ks

/-- Nothing is found beyond what is undefined or null. -/
theorem walk_of_isNullish {v : Value} (h : v.isNullish = true) (k : Value) (ks : List Value) :
    walk v (k :: ks) = .undefined := by
  simp [walk, h]

/-- The value under a tag and keys. -/
def read (d : Documents) (tag : String) (keys : List Value) : Value :=
  walk ((Dict.get? d tag).getD .undefined) keys

/-- The documents of JSON values. -/
def ofMembers (members : List (String × Json)) : Fresh Documents := do
  let documents ← Value.ofMembers members
  return Dict.ofList documents

/-- The host of the documents. It has no functions. -/
def host (d : Documents) : Host where
  read tag keys := return d.read tag keys
  call name _ _ := throw (.type (.notFunction name))

end Documents

end DataBinding
