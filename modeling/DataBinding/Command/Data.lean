import DataBinding.Config.Basic
import DataBinding.Eval.Documents

/-!
# The data of a command

The members of the data object are the values of the direct symbols, with or without their dollar
sign, and else documents by their tags.

Results:

* `Data.takeAll_length`: every name gets its value.
-/

namespace DataBinding

/-- The data of a program: a value for each direct symbol, and documents. -/
structure Data where
  direct : List Value
  documents : Documents

namespace Data

/-- The member of a direct symbol and the other members. The name with a dollar sign goes before the
    one without. -/
def take (members : Dict Json) (name : String) : Option Json × Dict Json :=
  match Dict.get? members ("$" ++ name) with
  | some j => (some j, Dict.erase members ("$" ++ name))
  | none => (Dict.get? members name, Dict.erase members name)

/-- The members of direct symbols, taken one after the other, and the other members. -/
def takeAll (members : Dict Json) : List String → List (Option Json) × Dict Json
  | [] => ([], members)
  | name :: rest =>
    ((take members name).1 :: (takeAll (take members name).2 rest).1,
      (takeAll (take members name).2 rest).2)

/-- Every name gets its value. -/
theorem takeAll_length (members : Dict Json) (names : List String) :
    (takeAll members names).1.length = names.length := by
  induction names generalizing members with
  | nil => rfl
  | cons name rest ih => simp [takeAll, ih]

/-- The value of a member; a missing one is undefined. -/
def valueOf : Option Json → Fresh Value
  | some j => Value.ofJson j
  | none => return .undefined

/-- The data of the members of an object. -/
def ofMembers (c : Config) (members : Dict Json) : Fresh Data := do
  let direct ← (takeAll members c.directNames).1.mapM valueOf
  let documents ← Documents.ofMembers (takeAll members c.directNames).2
  return ⟨direct, documents⟩

end Data

end DataBinding
