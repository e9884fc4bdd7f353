import DataBinding.Method.Basic
import DataBinding.Value.Equality

/-!
# Methods of arrays

A function given to a method is called with an element, its position and the array, for one element
after the other.

Results:

* `firstWhere_nil`: nothing is found among no elements.
* `joinItems_singleton`: one element needs no separator.
-/

namespace DataBinding

/-- A method of arrays. -/
inductive ArrayMethod where
  | map
  | filter
  | some
  | every
  | find
  | findIndex
  | reduce
  | includes
  | indexOf
  | join
  | slice
  | concat
  | reverse
  deriving DecidableEq, Repr

namespace ArrayMethod

/-- All methods. -/
def all : List ArrayMethod :=
  [map, filter, some, every, find, findIndex, reduce, includes, indexOf, join, slice, concat, reverse]

/-- The name of the method. -/
def name : ArrayMethod → String
  | map => "map"
  | filter => "filter"
  | some => "some"
  | every => "every"
  | find => "find"
  | findIndex => "findIndex"
  | reduce => "reduce"
  | includes => "includes"
  | indexOf => "indexOf"
  | join => "join"
  | slice => "slice"
  | concat => "concat"
  | reverse => "reverse"

/-- The method of a name. -/
def ofName? (name : String) : Option ArrayMethod := all.find? fun m => m.name == name

end ArrayMethod

/-! ## Walks over the elements -/

/-- The answers for the elements, the first of which has position `i`. -/
def mapItems (f : Value → Nat → Eval Value) (i : Nat) : List Value → Eval (List Value)
  | [] => return []
  | v :: rest => do
    let answer ← f v i
    let answers ← mapItems f (i + 1) rest
    return answer :: answers

/-- The elements that pass, the first of which has position `i`. -/
def filterItems (test : Value → Nat → Eval Bool) (i : Nat) : List Value → Eval (List Value)
  | [] => return []
  | v :: rest => do
    let passes ← test v i
    let kept ← filterItems test (i + 1) rest
    return if passes then v :: kept else kept

/-- The first element that passes, with its position. No element behind it is tested. -/
def firstWhere (test : Value → Nat → Eval Bool) (i : Nat) : List Value → Eval (Option (Nat × Value))
  | [] => return none
  | v :: rest => do
    let passes ← test v i
    if passes then return some (i, v) else firstWhere test (i + 1) rest

/-- The last of the values that follow each other from one element to the next. -/
def foldItems (f : Value → Value → Nat → Eval Value) (acc : Value) (i : Nat) :
    List Value → Eval Value
  | [] => return acc
  | v :: rest => do
    let acc ← f acc v i
    foldItems f acc (i + 1) rest

/-- Nothing is found among no elements. -/
theorem firstWhere_nil (test : Value → Nat → Eval Bool) (i : Nat) :
    firstWhere test i [] = pure none := rfl

/-! ## Plain methods -/

/-- The elements as texts around a separator. What is undefined or null is left blank. -/
def joinItems (separator : String) (items : List Value) : String :=
  separator.intercalate (Value.itemTexts items)

/-- One element needs no separator. -/
theorem joinItems_singleton (separator s : String) :
    joinItems separator [.string s] = s := by
  simp [joinItems, Value.itemTexts, Value.toText, Value.isNullish]

/-- The elements that an argument adds to an array: those of an array, or itself. -/
def addedItems : Value → List Value
  | .array _ items => items
  | other => [other]

/-- The separator of an argument; undefined stands for a comma. -/
def separatorText : Value → String
  | .undefined => ","
  | other => other.toText

/-! ## Calls -/

/-- The function that a method is given. -/
def givenFunction (m : ArrayMethod) (args : List Value) : Eval Function :=
  match argument args 0 with
  | .function _ f => pure f
  | _ => Eval.fault (.noCallback m.name)

/-- The answer of a function for an element. -/
def askItem (call : Caller) (f : Function) (this v : Value) (i : Nat) : Eval Value :=
  call f .undefined [v, .ofNat i, this]

/-- Does the function answer true for an element? -/
def testItem (call : Caller) (f : Function) (this v : Value) (i : Nat) : Eval Bool := do
  let answer ← askItem call f this v i
  return answer.isTruthy

/-- The value that a function reduces the elements to. Without a first value the first element is
    it. -/
def reduceItems (call : Caller) (f : Function) (this : Value) (items : List Value)
    (first? : Option Value) : Eval Value :=
  let step (acc v : Value) (i : Nat) : Eval Value := call f .undefined [acc, v, .ofNat i, this]
  match first?, items with
  | some acc, _ => foldItems step acc 0 items
  | none, v :: rest => foldItems step v 1 rest
  | none, [] => Eval.fault .emptyReduce

/-- Calls a method of an array with the elements `items`. -/
def ArrayMethod.call (call : Caller) (m : ArrayMethod) (this : Value) (items args : List Value) :
    Eval Value := do
  let first := argument args 0
  match m with
  | map =>
    let f ← givenFunction m args
    let answers ← mapItems (askItem call f this) 0 items
    Eval.ofFresh (Fresh.array answers)
  | filter =>
    let f ← givenFunction m args
    let kept ← filterItems (testItem call f this) 0 items
    Eval.ofFresh (Fresh.array kept)
  | some =>
    let f ← givenFunction m args
    let found ← firstWhere (testItem call f this) 0 items
    return .boolean found.isSome
  | every =>
    let f ← givenFunction m args
    let found ← firstWhere (fun v i => Bool.not <$> testItem call f this v i) 0 items
    return .boolean found.isNone
  | find =>
    let f ← givenFunction m args
    let found ← firstWhere (testItem call f this) 0 items
    return (found.map Prod.snd).getD .undefined
  | findIndex =>
    let f ← givenFunction m args
    let found ← firstWhere (testItem call f this) 0 items
    return ofPosition? (found.map Prod.fst)
  | reduce =>
    let f ← givenFunction m args
    reduceItems call f this items args[1]?
  | includes => return .boolean (items.any fun v => v.sameValue first)
  | indexOf => return ofPosition? (items.findIdx? fun v => v.strictEq first)
  | join => return .string (joinItems (separatorText first) items)
  | slice => Eval.ofFresh (Fresh.array (DataBinding.slice items first (argument args 1)))
  | concat => Eval.ofFresh (Fresh.array (items ++ args.flatMap addedItems))
  | reverse => Eval.ofFresh (Fresh.array items.reverse)

end DataBinding
