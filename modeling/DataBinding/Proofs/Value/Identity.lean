import DataBinding.Eval.Documents

/-!
# Values without their identities

Data is made into values anew for every run, and the arrays and objects in it get the identities that
are free then. Neither what keys lead to nor the JSON form of it depends on these identities.

Results:

* `Value.follow`, `Value.reach`: what keys lead to, with a fault or without one.
* `Documents.walk_eq_reach`: documents are read without a fault.
* `Value.unnumbered_ofJson`: two values of one JSON form differ in identities only.
* `Value.toJson_follow_congr`: keys lead from such values to the same JSON form.
-/

namespace DataBinding

namespace Value

/-! ## Paths of keys -/

/-- The value that keys lead to. To ask what is undefined or null for a key is a fault. -/
def follow (v : Value) : List String → Except TypeFault Value
  | [] => .ok v
  | k :: ks => do
    let w ← v.member (.string k)
    follow w ks

/-- The value that keys lead to, where nothing is found beyond what is undefined or null. -/
def reach (v : Value) (keys : List String) : Value :=
  match v.follow keys with
  | .ok w => w
  | .error _ => .undefined

theorem member_of_isNullish {v : Value} (h : v.isNullish = true) (key : Value) :
    v.member key = .error (.nullishMember v.toText key.toText) := if_pos h

theorem member_of_not_isNullish {v : Value} (h : v.isNullish = false) (key : Value) :
    v.member key = .ok (v.memberNamed key.toText) := if_neg (Bool.eq_false_iff.1 h)

theorem reach_cons_of_isNullish {v : Value} (h : v.isNullish = true) (k : String) (ks : List String) :
    v.reach (k :: ks) = .undefined := by
  rw [reach, follow, member_of_isNullish h]
  rfl

theorem reach_cons_of_not_isNullish {v : Value} (h : v.isNullish = false) (k : String)
    (ks : List String) : v.reach (k :: ks) = (v.memberNamed k).reach ks := by
  rw [reach, follow, member_of_not_isNullish h]
  rfl

end Value

/-- Documents are read without a fault. -/
theorem Documents.walk_eq_reach (v : Value) (keys : List String) :
    walk v (keys.map .string) = v.reach keys := by
  induction keys generalizing v with
  | nil => rfl
  | cons k ks ih =>
    rw [List.map_cons, walk]
    cases h : v.isNullish with
    | true => rw [if_pos rfl, Value.reach_cons_of_isNullish h]
    | false =>
      rw [if_neg Bool.false_ne_true, Value.reach_cons_of_not_isNullish h]
      exact ih _

namespace Value

/-! ## Forgetting identities -/

mutual

/-- The value with zero in the place of every identity outside functions. -/
def unnumbered : Value → Value
  | array _ items => array 0 (unnumberedItems items)
  | object _ entries => object 0 (unnumberedEntries entries)
  | regex _ re => regex 0 re
  | function _ f => function 0 f
  | undefined => undefined
  | null => null
  | boolean b => boolean b
  | number x => number x
  | string s => string s

/-- The elements with zero in the place of every identity. -/
def unnumberedItems : List Value → List Value
  | [] => []
  | v :: rest => unnumbered v :: unnumberedItems rest

/-- The entries with zero in the place of every identity. -/
def unnumberedEntries : List (String × Value) → List (String × Value)
  | [] => []
  | (name, v) :: rest => (name, unnumbered v) :: unnumberedEntries rest

end

theorem unnumberedItems_eq_map (vs : List Value) : unnumberedItems vs = vs.map unnumbered := by
  induction vs with
  | nil => rfl
  | cons v rest ih => rw [unnumberedItems, ih, List.map_cons]

theorem get?_unnumberedEntries (entries : List (String × Value)) (name : String) :
    Dict.get? (unnumberedEntries entries) name = (Dict.get? entries name).map unnumbered := by
  induction entries with
  | nil => rfl
  | cons e rest ih =>
    obtain ⟨k, v⟩ := e
    rw [unnumberedEntries, Dict.get?_cons, Dict.get?_cons, ih]
    split <;> rfl

@[simp] theorem isNullish_unnumbered (v : Value) : v.unnumbered.isNullish = v.isNullish := by
  cases v <;> rfl

@[simp] theorem isLeftOut_unnumbered (v : Value) : v.unnumbered.isLeftOut = v.isLeftOut := by
  cases v <;> rfl

theorem toText_unnumbered_of_isNullish {v : Value} (h : v.isNullish = true) :
    v.unnumbered.toText = v.toText := by
  cases v with
  | undefined | null => rfl
  | _ => cases h

/-! ## New values -/

mutual

/-- Two values of one JSON form differ in identities only. -/
theorem unnumbered_ofJson : (j : Json) → (n m : Nat) →
    ((ofJson j).run n).1.unnumbered = ((ofJson j).run m).1.unnumbered
  | .null, _, _ => rfl
  | .bool _, _, _ => rfl
  | .number _, _, _ => rfl
  | .string _, _, _ => rfl
  | .array items, n, m => by
    show (array _ ((ofItems items).run n).1).unnumbered = (array _ ((ofItems items).run m).1).unnumbered
    rw [unnumbered, unnumbered, unnumbered_ofItems items n m]
  | .object members, n, m => by
    show (object _ ((ofMembers members).run n).1).unnumbered =
      (object _ ((ofMembers members).run m).1).unnumbered
    rw [unnumbered, unnumbered, unnumbered_ofMembers members n m]

theorem unnumbered_ofItems : (js : List Json) → (n m : Nat) →
    unnumberedItems ((ofItems js).run n).1 = unnumberedItems ((ofItems js).run m).1
  | [], _, _ => rfl
  | j :: rest, n, m => by
    show unnumberedItems (((ofJson j).run n).1 :: ((ofItems rest).run ((ofJson j).run n).2).1) =
      unnumberedItems (((ofJson j).run m).1 :: ((ofItems rest).run ((ofJson j).run m).2).1)
    rw [unnumberedItems, unnumberedItems, unnumbered_ofJson j n m, unnumbered_ofItems rest]

theorem unnumbered_ofMembers : (ms : List (String × Json)) → (n m : Nat) →
    unnumberedEntries ((ofMembers ms).run n).1 = unnumberedEntries ((ofMembers ms).run m).1
  | [], _, _ => rfl
  | (name, j) :: rest, n, m => by
    show unnumberedEntries ((name, ((ofJson j).run n).1) ::
        ((ofMembers rest).run ((ofJson j).run n).2).1) =
      unnumberedEntries ((name, ((ofJson j).run m).1) ::
        ((ofMembers rest).run ((ofJson j).run m).2).1)
    rw [unnumberedEntries, unnumberedEntries, unnumbered_ofJson j n m, unnumbered_ofMembers rest]

end

/-! ## Members and JSON forms -/

theorem memberNamed_unnumbered (name : String) (v : Value) :
    v.unnumbered.memberNamed name = (v.memberNamed name).unnumbered := by
  cases v with
  | undefined | null | boolean | number | function => rfl
  | string s =>
    rw [unnumbered, memberNamed]
    split
    · rfl
    cases indexOfKey? name with
    | none => rfl
    | some i =>
      rw [Option.bind_some]
      cases s.toList[i]? <;> rfl
  | array id items =>
    rw [unnumbered, memberNamed, memberNamed, unnumberedItems_eq_map, List.length_map]
    split
    · rfl
    cases indexOfKey? name with
    | none => rfl
    | some i =>
      rw [Option.bind_some, Option.bind_some, List.getElem?_map]
      cases items[i]? <;> rfl
  | object id entries =>
    rw [unnumbered, memberNamed, memberNamed, get?_unnumberedEntries]
    cases Dict.get? entries name <;> rfl
  | regex id re =>
    rw [unnumbered, memberNamed, memberNamed]
    split
    · rfl
    split
    · rfl
    split <;> rfl

mutual

theorem toJson_unnumbered : (v : Value) → v.unnumbered.toJson = v.toJson
  | undefined | null | boolean _ | number _ | string _ => by rw [unnumbered]
  | regex .. | function .. => by
    rw [unnumbered]
    rfl
  | array _ items => by rw [unnumbered, toJson, toJson, itemsJson_unnumbered items]
  | object _ entries => by rw [unnumbered, toJson, toJson, entriesJson_unnumbered entries]

theorem itemsJson_unnumbered : (vs : List Value) → itemsJson (unnumberedItems vs) = itemsJson vs
  | [] => rfl
  | v :: rest => by
    rw [unnumberedItems, itemsJson, itemsJson, toJson_unnumbered v, itemsJson_unnumbered rest]

theorem entriesJson_unnumbered : (entries : List (String × Value)) →
    entriesJson (unnumberedEntries entries) = entriesJson entries
  | [] => rfl
  | (name, v) :: rest => by
    rw [unnumberedEntries, entriesJson, entriesJson, isLeftOut_unnumbered, toJson_unnumbered v,
      entriesJson_unnumbered rest]

end

/-! ## What keys lead to -/

variable {v w : Value}

/-- Keys lead from values that differ in identities only to such values, or to one fault. -/
theorem follow_unnumbered (v : Value) (keys : List String) :
    v.unnumbered.follow keys = (v.follow keys).map unnumbered := by
  induction keys generalizing v with
  | nil => rfl
  | cons k ks ih =>
    rw [follow, follow]
    cases h : v.isNullish with
    | true =>
      have h' : v.unnumbered.isNullish = true := by rw [isNullish_unnumbered, h]
      rw [member_of_isNullish h, member_of_isNullish h', toText_unnumbered_of_isNullish h]
      rfl
    | false =>
      have h' : v.unnumbered.isNullish = false := by rw [isNullish_unnumbered, h]
      rw [member_of_not_isNullish h, member_of_not_isNullish h', memberNamed_unnumbered]
      exact ih _

/-- Keys lead from values that differ in identities only to the same JSON form, or to one fault. -/
theorem toJson_follow_congr (h : v.unnumbered = w.unnumbered) (keys : List String) :
    (v.follow keys).map toJson = (w.follow keys).map toJson := by
  have forget : ∀ u : Value, (u.follow keys).map toJson = (u.unnumbered.follow keys).map toJson := by
    intro u
    rw [follow_unnumbered]
    cases u.follow keys with
    | error f => rfl
    | ok x => exact congrArg Except.ok (toJson_unnumbered x).symm
  rw [forget v, h, ← forget w]

theorem toJson_reach_congr (h : v.unnumbered = w.unnumbered) (keys : List String) :
    (v.reach keys).toJson = (w.reach keys).toJson := by
  have hf := toJson_follow_congr h keys
  unfold reach
  cases hv : v.follow keys with
  | error f =>
    cases hw : w.follow keys with
    | error g => rfl
    | ok y =>
      rw [hv, hw] at hf
      cases hf
  | ok x =>
    cases hw : w.follow keys with
    | error g =>
      rw [hv, hw] at hf
      cases hf
    | ok y =>
      rw [hv, hw] at hf
      exact Except.ok.inj hf

end Value

end DataBinding
