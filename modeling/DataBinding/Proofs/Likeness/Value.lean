import DataBinding.Method.Find
import DataBinding.Value.Entries
import DataBinding.Value.Json
import DataBinding.Value.Operate

/-!
# Values that differ in the code of arrow functions

Two runs of different programs give values that differ only in the bodies of arrow functions and in
the names that these capture. A `CodeRel` says which code may stand for which; `Value.Like` carries it
to values, which have the same structure and the same identities otherwise.

No operation on values looks into an arrow function, so all of them give the same on values that are
alike, or values that are alike again.

Results:

* `Value.Like.toText_eq`, `Value.Like.toNumber_eq`, `Value.Like.toJson_eq`: texts, numbers and JSON.
* `Value.Like.strictEq_eq`, `Value.Like.sameValue_eq`, `Value.Like.looseEq_eq`: comparisons.
* `Value.Like.memberNamed`, `Value.Like.entries`: parts of values.
* `Value.Like.unary_eq`, `Value.Like.binary`: operators.
-/

namespace DataBinding

/-- The code of an arrow function: its parameters, its body and the names that it captures. -/
structure Code where
  params : List String
  body : Expr
  names : List String

/-- Which code may stand for which, if the captured names correspond in a given way. -/
abbrev CodeRel := (String → String → Prop) → Code → Code → Prop

namespace Value

mutual

/-- The values are the same but for the code of arrow functions. -/
inductive Like (K : CodeRel) : Value → Value → Prop where
  | undefined : Like K undefined undefined
  | null : Like K null null
  | boolean (b : Bool) : Like K (boolean b) (boolean b)
  | number (x : Float) : Like K (number x) (number x)
  | string (s : String) : Like K (string s) (string s)
  | array (id : Nat) {xs ys : List Value} (h : LikeItems K xs ys) : Like K (array id xs) (array id ys)
  | object (id : Nat) {es fs : List (String × Value)} (h : LikeEntries K es fs) :
      Like K (object id es) (object id fs)
  | regex (id : Nat) (re : Regex) : Like K (regex id re) (regex id re)
  | function (id : Nat) {f g : Function} (h : LikeFunction K f g) :
      Like K (function id f) (function id g)

/-- The functions are the same built-in one, or arrow functions whose code may stand for each other
    and which capture values that are alike. -/
inductive LikeFunction (K : CodeRel) : Function → Function → Prop where
  | native (f : Native) : LikeFunction K (.native f) (.native f)
  | closure {N : String → String → Prop} {ps qs : List String} {e f : Expr}
      {cs ds : List (String × Value)} (hk : K N ⟨ps, e, Dict.keys cs⟩ ⟨qs, f, Dict.keys ds⟩)
      (hc : ∀ m n v v', N m n → Dict.get? cs m = some v → Dict.get? ds n = some v' → Like K v v') :
      LikeFunction K (.closure ps e cs) (.closure qs f ds)

/-- The values of two lists are alike one by one. -/
inductive LikeItems (K : CodeRel) : List Value → List Value → Prop where
  | nil : LikeItems K [] []
  | cons {v v' : Value} {xs ys : List Value} (h : Like K v v') (hs : LikeItems K xs ys) :
      LikeItems K (v :: xs) (v' :: ys)

/-- The entries have the same names and values that are alike one by one. -/
inductive LikeEntries (K : CodeRel) : List (String × Value) → List (String × Value) → Prop where
  | nil : LikeEntries K [] []
  | cons (name : String) {v v' : Value} {es fs : List (String × Value)} (h : Like K v v')
      (hs : LikeEntries K es fs) : LikeEntries K ((name, v) :: es) ((name, v') :: fs)

end

/-- Nothing and nothing, or values that are alike. -/
inductive LikeOption (K : CodeRel) : Option Value → Option Value → Prop where
  | none : LikeOption K none none
  | some {v v' : Value} (h : Like K v v') : LikeOption K (some v) (some v')

/-- The same fault, or values that are alike. -/
inductive LikeExcept (K : CodeRel) : Except TypeFault Value → Except TypeFault Value → Prop where
  | error (f : TypeFault) : LikeExcept K (.error f) (.error f)
  | ok {v v' : Value} (h : Like K v v') : LikeExcept K (.ok v) (.ok v')

variable {K : CodeRel} {v v' a a' b b' : Value} {xs ys : List Value} {es fs : List (String × Value)}

/-! ## Lists of values -/

theorem LikeOption.getD {x y : Option Value} (h : LikeOption K x y) :
    Like K (x.getD undefined) (y.getD undefined) := by
  cases h with
  | none => exact .undefined
  | some h => exact h

theorem LikeItems.length_eq (h : LikeItems K xs ys) : xs.length = ys.length := by
  induction xs generalizing ys with
  | nil =>
    cases h
    rfl
  | cons x xs ih =>
    cases h with
    | cons _ hs => rw [List.length_cons, List.length_cons, ih hs]

theorem LikeItems.append {xs' ys' : List Value} (h : LikeItems K xs ys) (h' : LikeItems K xs' ys') :
    LikeItems K (xs ++ xs') (ys ++ ys') := by
  induction xs generalizing ys with
  | nil =>
    cases h
    exact h'
  | cons x xs ih =>
    cases h with
    | cons h hs => exact .cons h (ih hs)

theorem LikeItems.reverse (h : LikeItems K xs ys) : LikeItems K xs.reverse ys.reverse := by
  induction xs generalizing ys with
  | nil =>
    cases h
    exact .nil
  | cons x xs ih =>
    cases h with
    | cons h hs =>
      rw [List.reverse_cons, List.reverse_cons]
      exact (ih hs).append (.cons h .nil)

theorem LikeItems.drop (h : LikeItems K xs ys) (n : Nat) : LikeItems K (xs.drop n) (ys.drop n) := by
  induction n generalizing xs ys with
  | zero => exact h
  | succ n ih =>
    cases h with
    | nil => exact .nil
    | cons _ hs => exact ih hs

theorem LikeItems.take (h : LikeItems K xs ys) (n : Nat) : LikeItems K (xs.take n) (ys.take n) := by
  induction n generalizing xs ys with
  | zero => exact .nil
  | succ n ih =>
    cases h with
    | nil => exact .nil
    | cons h hs => exact .cons h (ih hs)

theorem LikeItems.getElem? (h : LikeItems K xs ys) (i : Nat) : LikeOption K xs[i]? ys[i]? := by
  induction i generalizing xs ys with
  | zero =>
    cases h with
    | nil => exact .none
    | cons h hs => exact .some h
  | succ i ih =>
    cases h with
    | nil => exact .none
    | cons _ hs => exact ih hs

theorem LikeItems.map_eq {α : Type} {f : Value → α} (hf : ∀ v v', Like K v v' → f v = f v')
    (h : LikeItems K xs ys) : xs.map f = ys.map f := by
  induction xs generalizing ys with
  | nil =>
    cases h
    rfl
  | cons x xs ih =>
    cases h with
    | cons h hs => rw [List.map_cons, List.map_cons, hf _ _ h, ih hs]

theorem LikeItems.flatMap {f : Value → List Value}
    (hf : ∀ v v', Like K v v' → LikeItems K (f v) (f v')) (h : LikeItems K xs ys) :
    LikeItems K (xs.flatMap f) (ys.flatMap f) := by
  induction xs generalizing ys with
  | nil =>
    cases h
    exact .nil
  | cons x xs ih =>
    cases h with
    | cons h hs =>
      rw [List.flatMap_cons, List.flatMap_cons]
      exact (hf _ _ h).append (ih hs)

theorem LikeItems.any_eq {p q : Value → Bool} (hp : ∀ v v', Like K v v' → p v = q v')
    (h : LikeItems K xs ys) : xs.any p = ys.any q := by
  induction xs generalizing ys with
  | nil =>
    cases h
    rfl
  | cons x xs ih =>
    cases h with
    | cons h hs => rw [List.any_cons, List.any_cons, hp _ _ h, ih hs]

theorem LikeItems.findIdx?_eq {p q : Value → Bool} (hp : ∀ v v', Like K v v' → p v = q v')
    (h : LikeItems K xs ys) : xs.findIdx? p = ys.findIdx? q := by
  induction xs generalizing ys with
  | nil =>
    cases h
    rfl
  | cons x xs ih =>
    cases h with
    | cons h hs => rw [List.findIdx?_cons, List.findIdx?_cons, hp _ _ h, ih hs]

/-! ## Entries -/

theorem LikeEntries.get? (h : LikeEntries K es fs) (name : String) :
    LikeOption K (Dict.get? es name) (Dict.get? fs name) := by
  induction es generalizing fs with
  | nil =>
    cases h
    exact .none
  | cons e es ih =>
    cases h with
    | cons k h hs =>
      rw [Dict.get?_cons, Dict.get?_cons]
      split
      · exact .some h
      · exact ih hs

theorem LikeEntries.contains_eq (h : LikeEntries K es fs) (name : String) :
    Dict.contains es name = Dict.contains fs name := by
  have hg := h.get? name
  unfold Dict.contains
  generalize Dict.get? es name = x, Dict.get? fs name = y at hg
  cases hg <;> rfl

theorem LikeEntries.insert (h : LikeEntries K es fs) (name : String) (hv : Like K v v') :
    LikeEntries K (Dict.insert es name v) (Dict.insert fs name v') := by
  induction es generalizing fs with
  | nil =>
    cases h
    exact .cons name hv .nil
  | cons e es ih =>
    cases h with
    | cons k hk hs =>
      rw [Dict.insert, Dict.insert]
      split
      · exact .cons name hv (.cons k hk hs)
      · split
        · exact .cons name hv hs
        · exact .cons k hk (ih hs)

theorem LikeEntries.ofList (h : LikeEntries K es fs) :
    LikeEntries K (Dict.ofList es) (Dict.ofList fs) := by
  have fold : ∀ {d d' : Dict Value}, LikeEntries K d d' →
      LikeEntries K (es.foldl (fun d e => Dict.insert d e.1 e.2) d)
        (fs.foldl (fun d e => Dict.insert d e.1 e.2) d') := by
    induction es generalizing fs with
    | nil =>
      cases h
      exact id
    | cons e es ih =>
      cases h with
      | cons k hk hs => exact fun hd => ih hs (hd.insert k hk)
  exact fold .nil

theorem LikeEntries.append {es' fs' : List (String × Value)} (h : LikeEntries K es fs)
    (h' : LikeEntries K es' fs') : LikeEntries K (es ++ es') (fs ++ fs') := by
  induction es generalizing fs with
  | nil =>
    cases h
    exact h'
  | cons e es ih =>
    cases h with
    | cons k hk hs => exact .cons k hk (ih hs)

/-! ## Kinds, texts and numbers -/

theorem Like.isNullish_eq (h : Like K v v') : v.isNullish = v'.isNullish := by cases h <;> rfl

theorem Like.isPrimitive_eq (h : Like K v v') : v.isPrimitive = v'.isPrimitive := by cases h <;> rfl

theorem Like.isTruthy_eq (h : Like K v v') : v.isTruthy = v'.isTruthy := by cases h <;> rfl

theorem Like.typeName_eq (h : Like K v v') : v.typeName = v'.typeName := by cases h <;> rfl

theorem Like.isLeftOut_eq (h : Like K v v') : v.isLeftOut = v'.isLeftOut := by cases h <;> rfl

/-- What has no identity is the same. -/
theorem Like.eq_of_isPrimitive (h : Like K v v') (hp : v.isPrimitive = true) : v = v' := by
  cases h <;> first | rfl | cases hp

/-- What has no identity is like itself. -/
theorem like_of_isPrimitive (hp : v.isPrimitive = true) : Like K v v := by
  cases v with
  | undefined => exact .undefined
  | null => exact .null
  | boolean b => exact .boolean b
  | number x => exact .number x
  | string s => exact .string s
  | _ => cases hp

mutual

theorem Like.toText_eq {v v' : Value} (h : Like K v v') : v.toText = v'.toText := by
  cases h with
  | array id h => rw [toText, toText, h.itemTexts_eq]
  | object | function => rw [toText, toText]
  | _ => rfl

theorem LikeItems.itemTexts_eq {xs ys : List Value} (h : LikeItems K xs ys) :
    itemTexts xs = itemTexts ys := by
  cases h with
  | nil => rfl
  | cons h hs => rw [itemTexts, itemTexts, h.isNullish_eq, h.toText_eq, hs.itemTexts_eq]

end

theorem isPrimitive_primitive (v : Value) : v.primitive.isPrimitive = true := by
  unfold primitive
  split
  · assumption
  · rfl

theorem Like.toNumber_eq (h : Like K v v') : v.toNumber = v'.toNumber := by
  cases h with
  | array id h => rw [toNumber, toNumber, (Like.array id h).toText_eq]
  | _ => rfl

theorem Like.primitive_eq (h : Like K v v') : v.primitive = v'.primitive := by
  unfold primitive
  rw [h.isPrimitive_eq, h.toText_eq]
  split
  · rename_i hp
    exact h.eq_of_isPrimitive (h.isPrimitive_eq.trans hp)
  · rfl

mutual

theorem Like.toJson_eq {v v' : Value} (h : Like K v v') : v.toJson = v'.toJson := by
  cases h with
  | array id h => rw [toJson, toJson, h.itemsJson_eq]
  | object id h => rw [toJson, toJson, h.entriesJson_eq]
  | function => rw [toJson, toJson]
  | _ => rfl

theorem LikeItems.itemsJson_eq {xs ys : List Value} (h : LikeItems K xs ys) :
    itemsJson xs = itemsJson ys := by
  cases h with
  | nil => rfl
  | cons h hs => rw [itemsJson, itemsJson, h.toJson_eq, hs.itemsJson_eq]

theorem LikeEntries.entriesJson_eq {es fs : List (String × Value)} (h : LikeEntries K es fs) :
    entriesJson es = entriesJson fs := by
  cases h with
  | nil => rfl
  | cons name h hs =>
    rw [entriesJson, entriesJson, h.isLeftOut_eq, h.toJson_eq, hs.entriesJson_eq]

end

/-! ## Comparisons -/

theorem Like.strictEq_eq (ha : Like K a a') (hb : Like K b b') : a.strictEq b = a'.strictEq b' := by
  cases ha <;> cases hb <;> rfl

theorem Like.sameValue_eq (ha : Like K a a') (hb : Like K b b') : a.sameValue b = a'.sameValue b' := by
  cases ha <;> cases hb <;> rfl

theorem Like.counted (h : Like K v v') : Like K v.counted v'.counted := by
  cases h with
  | boolean b => exact .number _
  | undefined => exact .undefined
  | null => exact .null
  | number x => exact .number x
  | string s => exact .string s
  | array id h => exact .array id h
  | object id h => exact .object id h
  | regex id re => exact .regex id re
  | function id h => exact .function id h

theorem Like.sameCount_eq (ha : Like K a a') (hb : Like K b b') : a.sameCount b = a'.sameCount b' := by
  cases ha <;> cases hb <;> rfl

theorem Like.looseEq_eq (ha : Like K a a') (hb : Like K b b') : a.looseEq b = a'.looseEq b' := by
  have beside : ∀ {x x' y y' : Value}, Like K x x' → Like K y y' →
      Like K (if y.isPrimitive then x.primitive else x)
        (if y'.isPrimitive then x'.primitive else x') := by
    intro x x' y y' hx hy
    rw [hy.isPrimitive_eq, hx.primitive_eq]
    split
    · exact like_of_isPrimitive (isPrimitive_primitive x')
    · exact hx
  unfold looseEq
  rw [ha.isNullish_eq, hb.isNullish_eq]
  dsimp only
  rw [(beside ha.counted hb.counted).sameCount_eq (beside hb.counted ha.counted)]

/-! ## Parts -/

theorem Like.memberNamed (h : Like K v v') (name : String) :
    Like K (v.memberNamed name) (v'.memberNamed name) := by
  cases h with
  | array id h =>
    simp only [Value.memberNamed, h.length_eq]
    split
    · exact .number _
    · cases indexOfKey? name with
      | none => exact .undefined
      | some i => exact (h.getElem? i).getD
  | object id h => exact (h.get? name).getD
  | string s =>
    apply like_of_isPrimitive
    simp only [Value.memberNamed]
    split
    · rfl
    · cases indexOfKey? name with
      | none => rfl
      | some i => cases hi : s.toList[i]? <;> simp [hi, isPrimitive, ofChar]
  | regex id re =>
    apply like_of_isPrimitive
    simp only [Value.memberNamed]
    split
    · rfl
    split
    · rfl
    split <;> rfl
  | _ => exact .undefined

theorem likeEntries_numbered (h : LikeItems K xs ys) : LikeEntries K (numbered xs) (numbered ys) := by
  have from_ : ∀ i, LikeEntries K ((xs.zipIdx i).map fun x => (toString x.2, x.1))
      ((ys.zipIdx i).map fun x => (toString x.2, x.1)) := by
    induction xs generalizing ys with
    | nil =>
      cases h
      exact fun _ => .nil
    | cons x xs ih =>
      cases h with
      | cons h hs => exact fun i => .cons _ h (ih hs (i + 1))
  exact from_ 0

theorem likeItems_map_ofChar (cs : List Char) : LikeItems K (cs.map ofChar) (cs.map ofChar) := by
  induction cs with
  | nil => exact .nil
  | cons c cs ih => exact .cons (.string _) ih

theorem Like.entries (h : Like K v v') : LikeEntries K v.entries v'.entries := by
  cases h with
  | object id h => exact h
  | array id h => exact likeEntries_numbered h
  | string s => exact likeEntries_numbered (likeItems_map_ofChar s.toList)
  | _ => exact .nil

/-! ## Operators -/

theorem Like.unary_eq (h : Like K v v') (op : UnaryOp) : v.unary op = v'.unary op := by
  cases op with
  | not => rw [unary, unary, h.isTruthy_eq]
  | negate | plus => rw [unary, unary, h.toNumber_eq]
  | typeof => rw [unary, unary, h.typeName_eq]
  | void => rfl

theorem Like.unary (h : Like K v v') (op : UnaryOp) : Like K (v.unary op) (v'.unary op) := by
  rw [h.unary_eq]
  exact like_of_isPrimitive (by cases op <;> rfl)

theorem Like.chosen? (h : Like K v v') (op : BinaryOp) :
    LikeOption K (v.chosen? op) (v'.chosen? op) := by
  cases op <;> first | exact .none | skip
  all_goals
    simp only [Value.chosen?, h.isTruthy_eq]
    split
    · first | exact .none | exact .some h
    · first | exact .none | exact .some h

theorem Like.add_eq (ha : Like K a a') (hb : Like K b b') : a.add b = a'.add b' := by
  unfold add
  rw [ha.primitive_eq, hb.primitive_eq]

theorem Like.compare_eq (ha : Like K a a') (hb : Like K b b') (op : BinaryOp) :
    Value.compare op a b = Value.compare op a' b' := by
  unfold Value.compare
  rw [ha.primitive_eq, hb.primitive_eq]

theorem Like.within (ha : Like K a a') (hb : Like K b b') :
    LikeExcept K (Value.within a b) (Value.within a' b') := by
  have other : ∀ {w w' : Value}, Like K w w' →
      LikeExcept K (.error (.noKeys a.toText w.toText)) (.error (.noKeys a'.toText w'.toText)) := by
    intro w w' hw
    rw [ha.toText_eq, hw.toText_eq]
    exact .error _
  cases hb with
  | object id h =>
    simp only [Value.within, ha.toText_eq, h.contains_eq]
    exact .ok (.boolean _)
  | array id h =>
    simp only [Value.within, ha.toText_eq, h.length_eq]
    exact .ok (.boolean _)
  | undefined => exact other .undefined
  | null => exact other .null
  | boolean b => exact other (.boolean b)
  | number x => exact other (.number x)
  | string s => exact other (.string s)
  | regex id re => exact other (.regex id re)
  | function id h => exact other (.function id h)

theorem Like.binary (ha : Like K a a') (hb : Like K b b') (op : BinaryOp) :
    LikeExcept K (Value.binary op a b) (Value.binary op a' b') := by
  have plain : ∀ {w w' : Value}, w = w' → w'.isPrimitive = true →
      LikeExcept K (.ok w) (.ok w') := by
    intro w w' hw hp
    subst hw
    exact .ok (like_of_isPrimitive hp)
  have chosen : ∀ op, Like K ((Value.chosen? op a).getD b) ((Value.chosen? op a').getD b') := by
    intro op
    have hc := ha.chosen? op
    generalize Value.chosen? op a = x, Value.chosen? op a' = y at hc
    cases hc with
    | none => exact hb
    | some h => exact h
  cases op with
  | add =>
    refine plain (ha.add_eq hb) ?_
    unfold Value.add
    dsimp only
    split <;> rfl
  | subtract | multiply | divide | modulo =>
    exact plain (by rw [ha.toNumber_eq, hb.toNumber_eq]) rfl
  | equal | notEqual => exact plain (by rw [ha.looseEq_eq hb]) rfl
  | strictEqual | strictNotEqual => exact plain (by rw [ha.strictEq_eq hb]) rfl
  | less | greater | lessEqual | greaterEqual => exact plain (by rw [ha.compare_eq hb]) rfl
  | within => exact ha.within hb
  | and => exact .ok (chosen .and)
  | or => exact .ok (chosen .or)

theorem Like.member (ha : Like K a a') (hb : Like K b b') :
    LikeExcept K (a.member b) (a'.member b') := by
  unfold Value.member
  rw [ha.isNullish_eq, ha.toText_eq, hb.toText_eq]
  split
  · exact .error _
  · exact .ok (ha.memberNamed _)

end Value

end DataBinding
