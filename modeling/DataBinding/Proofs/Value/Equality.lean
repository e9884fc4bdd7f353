import Mathlib
import DataBinding.Value.Equality

/-!
# How the equalities fit together

Strict equality is symmetric and transitive, and structural equality is an equivalence. What is strictly
equal is loosely equal, and structurally equal where an identity belongs to one value only.

Loose equality is defined by what it compares in the end. The same comparison can be read step by step:
`coercion?` is a step that coerces one of the two values, truth values to numbers first, then what has
an identity to its text beside a value that has none, and `settled` compares when no step is left. Each
step leaves fewer coercions to make, and loose equality stays what it was.

Results:

* `strictEq_comm`, `strictEq_trans`, `alike_equivalence`: the laws of strict and structural equality.
* `looseEq_of_strictEq`, `alike_of_strictEq`: strict equality implies the other two.
* `looseEq_comm`: loose equality is symmetric.
* `coercion_wellFounded`, `looseEq_of_coercion`, `looseEq_of_settled`: coercions end, and loose equality
  is what stands at their end.
* `equalities_fit`: all of these.
-/

namespace DataBinding.Value

/-! ## Numbers -/

theorem sameNumber_refl (x : Float) : (x == x || (x.isNaN && x.isNaN)) = true := by
  by_cases hx : x = Float.nan <;> simp [hx]

/-- A number that equals another one is a number. -/
theorem isNaN_of_beq {x y : Float} (h : (x == y) = true) : x.isNaN = false ∧ y.isNaN = false := by
  obtain ⟨hx, hy, -⟩ := Float.beq_iff_ne_nan_and_eq.1 h
  simp [hx, hy]

theorem sameNumber_trans {x y z : Float} (h : (x == y || (x.isNaN && y.isNaN)) = true)
    (h' : (y == z || (y.isNaN && z.isNaN)) = true) : (x == z || (x.isNaN && z.isNaN)) = true := by
  rw [Bool.or_eq_true, Bool.and_eq_true] at h h' ⊢
  rcases h with h | ⟨hx, hy⟩ <;> rcases h' with h' | ⟨hy', hz⟩
  · exact .inl (BEq.trans h h')
  · rw [(isNaN_of_beq h).2] at hy'
    cases hy'
  · rw [(isNaN_of_beq h').1] at hy
    cases hy
  · exact .inr ⟨hx, hz⟩

/-! ## Strict equality -/

theorem strictEq_comm (a b : Value) : a.strictEq b = b.strictEq a := by
  cases a <;> cases b <;> first | rfl | exact BEq.comm

theorem strictEq_trans {a b c : Value} (h : a.strictEq b = true) (h' : b.strictEq c = true) :
    a.strictEq c = true := by
  cases a <;> cases b <;> try (cases h; done)
  all_goals cases c <;> first | rfl | exact BEq.trans h h' | cases h'

/-! ## Structural equality -/

mutual

theorem alike_refl : (a : Value) → alike a a = true
  | undefined | null => rfl
  | boolean _ | string _ | function .. => BEq.rfl
  | number x => sameNumber_refl x
  | array _ items => alikeItems_refl items
  | object _ entries => alikeEntries_refl entries
  | regex _ re => by rw [alike, BEq.rfl, BEq.rfl]; rfl

theorem alikeItems_refl : (xs : List Value) → alikeItems xs xs = true
  | [] => rfl
  | x :: xs => by rw [alikeItems, alike_refl x, alikeItems_refl xs]; rfl

theorem alikeEntries_refl : (xs : List (String × Value)) → alikeEntries xs xs = true
  | [] => rfl
  | (_, x) :: xs => by rw [alikeEntries, BEq.rfl, alike_refl x, alikeEntries_refl xs]; rfl

end

mutual

theorem alike_comm (a b : Value) : alike a b = alike b a := by
  cases a <;> cases b <;> try rfl
  case boolean => exact BEq.comm
  case string => exact BEq.comm
  case function => exact BEq.comm
  case number => rw [alike, alike, BEq.comm, Bool.and_comm]
  case regex s => rw [alike, alike, BEq.comm, BEq.comm (b := s.flags)]
  case array xs _ ys => exact alikeItems_comm xs ys
  case object xs _ ys => exact alikeEntries_comm xs ys

theorem alikeItems_comm (xs ys : List Value) : alikeItems xs ys = alikeItems ys xs := by
  cases xs <;> cases ys <;> try rfl
  case cons x xs y ys => rw [alikeItems, alikeItems, alike_comm x y, alikeItems_comm xs ys]

theorem alikeEntries_comm (xs ys : List (String × Value)) :
    alikeEntries xs ys = alikeEntries ys xs := by
  cases xs <;> cases ys <;> try rfl
  case cons x xs y ys =>
    rw [alikeEntries, alikeEntries, alike_comm x.2 y.2, alikeEntries_comm xs ys, BEq.comm]

end

mutual

theorem alike_trans {a b c : Value} (h : alike a b = true) (h' : alike b c = true) :
    alike a c = true := by
  -- only values of one kind are alike
  cases a <;> cases b <;> try (cases h; done)
  all_goals cases c <;> try (cases h'; done)
  case undefined => rfl
  case null => rfl
  case boolean => exact BEq.trans h h'
  case string => exact BEq.trans h h'
  case function => exact BEq.trans h h'
  case number => exact sameNumber_trans h h'
  case regex =>
    rw [alike, Bool.and_eq_true] at h h' ⊢
    exact ⟨BEq.trans h.1 h'.1, BEq.trans h.2 h'.2⟩
  case array => exact alikeItems_trans h h'
  case object => exact alikeEntries_trans h h'
termination_by structural a

theorem alikeItems_trans {xs ys zs : List Value} (h : alikeItems xs ys = true)
    (h' : alikeItems ys zs = true) : alikeItems xs zs = true := by
  cases xs <;> cases ys <;> try (cases h; done)
  all_goals cases zs <;> try (cases h'; done)
  case nil => rfl
  case cons =>
    rw [alikeItems, Bool.and_eq_true] at h h' ⊢
    exact ⟨alike_trans h.1 h'.1, alikeItems_trans h.2 h'.2⟩
termination_by structural xs

theorem alikeEntries_trans {xs ys zs : List (String × Value)} (h : alikeEntries xs ys = true)
    (h' : alikeEntries ys zs = true) : alikeEntries xs zs = true := by
  cases xs <;> cases ys <;> try (cases h; done)
  all_goals cases zs <;> try (cases h'; done)
  case nil => rfl
  case cons =>
    rw [alikeEntries, Bool.and_eq_true, Bool.and_eq_true] at h h' ⊢
    exact ⟨⟨BEq.trans h.1.1 h'.1.1, alike_trans h.1.2 h'.1.2⟩, alikeEntries_trans h.2 h'.2⟩
termination_by structural xs

end

/-- Structural equality is an equivalence. -/
theorem alike_equivalence : Equivalence fun a b : Value => alike a b = true where
  refl := alike_refl
  symm {a b} h := by rwa [alike_comm b a]
  trans := alike_trans

/-! ## What strict equality implies -/

/-- The identity of a value that has one. -/
def identity? : Value → Option Nat
  | array id _ | object id _ | regex id _ | function id _ => some id
  | _ => none

/-- The values are one value if they share an identity. -/
def OneIfShared (a b : Value) : Prop := ∀ id, a.identity? = some id → b.identity? = some id → a = b

/-- What is strictly equal is structurally equal. -/
theorem alike_of_strictEq {a b : Value} (hone : OneIfShared a b) (h : a.strictEq b = true) :
    alike a b = true := by
  -- values with an identity are strictly equal if they share it
  have shared : ∀ {id id'}, a.identity? = some id → b.identity? = some id' → (id == id') = true →
      alike a b = true := by
    intro id id' ha hb he
    rw [hone id ha (by rw [hb, beq_iff_eq.1 he])]
    exact alike_refl b
  cases a <;> cases b <;> try (cases h; done)
  case undefined => rfl
  case null => rfl
  case boolean => exact h
  case string => exact h
  case number => exact Bool.or_eq_true_iff.2 (.inl h)
  case array => exact shared rfl rfl h
  case object => exact shared rfl rfl h
  case regex => exact shared rfl rfl h
  case function => exact shared rfl rfl h

/-! ## Loose equality -/

theorem sameCount_comm (a b : Value) : sameCount a b = sameCount b a := by
  cases a <;> cases b <;> first | rfl | exact BEq.comm

/-- Loose equality is symmetric. -/
theorem looseEq_comm (a b : Value) : a.looseEq b = b.looseEq a := by
  rw [looseEq, looseEq, Bool.or_comm, Bool.and_comm]
  split
  · rfl
  · exact sameCount_comm _ _

/-- What is strictly equal is loosely equal. -/
theorem looseEq_of_strictEq {a b : Value} (h : a.strictEq b = true) : a.looseEq b = true := by
  cases a <;> cases b <;> try (cases h; done)
  case undefined => rfl
  case null => rfl
  case boolean p q =>
    obtain rfl : p = q := beq_iff_eq.1 h
    cases p <;> decide +kernel
  all_goals exact h

/-! ## Coercions -/

/-- One coercion of loose equality: a truth value becomes a number, and what has an identity becomes a
    text beside what has none. -/
def coercion? (a b : Value) : Option (Value × Value) :=
  if a.isNullish || b.isNullish then none
  else match a, b with
    | number _, string _ | string _, number _ => none
    | boolean p, b => some (number (boolean p).toNumber, b)
    | a, boolean q => some (a, number (boolean q).toNumber)
    | a, b =>
      if a.isPrimitive = b.isPrimitive then none
      else if a.isPrimitive then some (a, string b.toText)
      else some (b, string a.toText)

/-- The comparison of values that need no coercion. -/
def settled (a b : Value) : Bool :=
  if a.isNullish || b.isNullish then a.isNullish && b.isNullish
  else match a, b with
    | number _, string _ | string _, number _ => a.toNumber == b.toNumber
    | a, b => a.strictEq b

/-- The coercions that a value can still take. -/
def coercible : Value → Nat
  | boolean _ | array .. | object .. | regex .. | function .. => 1
  | _ => 0

/-- A coercion leaves fewer of them. -/
theorem coercible_lt_of_coercion {a b c d : Value} (h : coercion? a b = some (c, d)) :
    c.coercible + d.coercible < a.coercible + b.coercible := by
  cases a <;> cases b <;> cases h <;> exact Nat.lt_succ_self _

theorem counted_of_ne_boolean {v : Value} (h : ∀ p, v = boolean p → False) : v.counted = v := by
  cases v <;> first | rfl | exact (h _ rfl).elim

theorem looseEq_boolean (p : Bool) (b : Value) :
    (boolean p).looseEq b = (number (boolean p).toNumber).looseEq b := rfl

/-- What has an identity counts as its text beside a number or a text. -/
theorem looseEq_string_toText {a b : Value} (ha : a.isPrimitive = true) (hc : a.counted = a)
    (hb : b.isPrimitive = false) : a.looseEq b = a.looseEq (string b.toText) := by
  cases b <;> try (cases hb; done)
  all_goals cases a <;> first | (cases ha; done) | (cases hc; done) | rfl

/-- Loose equality goes on with what a coercion gives. -/
theorem looseEq_of_coercion {a b c d : Value} (h : coercion? a b = some (c, d)) :
    a.looseEq b = c.looseEq d := by
  -- the cases are those of the step: nullish values, a number and a text, a truth value on either side
  unfold coercion? at h
  split at h
  · cases h
  split at h
  · cases h
  · cases h
  · cases h
    exact looseEq_boolean _ b
  · cases h
    rw [looseEq_comm, looseEq_boolean, looseEq_comm]
  · rename_i hboola hboolb _ _
    split at h
    · cases h
    rename_i hne
    split at h
    · rename_i ha
      cases h
      exact looseEq_string_toText ha (counted_of_ne_boolean hboola) (by simpa [ha] using hne)
    · rename_i ha
      cases h
      rw [looseEq_comm]
      exact looseEq_string_toText (by simpa [ha] using hne) (counted_of_ne_boolean hboolb)
        (by simpa using ha)

/-- Without a coercion the values are compared. -/
theorem looseEq_of_settled {a b : Value} (h : coercion? a b = none) : a.looseEq b = settled a b := by
  cases a <;> cases b <;> first | (cases h; done) | rfl

/-- Coercions end. -/
theorem coercion_wellFounded :
    WellFounded fun q p : Value × Value => coercion? p.1 p.2 = some q :=
  Subrelation.wf (fun h => coercible_lt_of_coercion h)
    (measure fun p : Value × Value => p.1.coercible + p.2.coercible).wf

/-- The laws of the three equalities, and how they fit together. -/
theorem equalities_fit :
    (∀ a b, strictEq a b = strictEq b a) ∧
    (∀ a b c, strictEq a b = true → strictEq b c = true → strictEq a c = true) ∧
    (Equivalence fun a b => alike a b = true) ∧
    (∀ a b, strictEq a b = true → looseEq a b = true) ∧
    (∀ a b, OneIfShared a b → strictEq a b = true → alike a b = true) ∧
    (∀ a b, looseEq a b = looseEq b a) ∧
    (WellFounded fun q p : Value × Value => coercion? p.1 p.2 = some q) ∧
    (∀ a b, looseEq a b = match coercion? a b with
      | some (c, d) => looseEq c d
      | none => settled a b) := by
  refine ⟨strictEq_comm, fun _ _ _ => strictEq_trans, alike_equivalence,
    fun _ _ => looseEq_of_strictEq, fun _ _ => alike_of_strictEq, looseEq_comm,
    coercion_wellFounded, fun a b => ?_⟩
  split
  · exact looseEq_of_coercion ‹_›
  · exact looseEq_of_settled ‹_›

/-- An array is equal to itself in all three ways, though its element is not strictly equal to itself. -/
theorem equalities_fit_array : (number Numeral.nan).strictEq (number Numeral.nan) = false ∧
    (array 0 [number Numeral.nan]).looseEq (array 0 [number Numeral.nan]) = true ∧
    (array 0 [number Numeral.nan]).alike (array 0 [number Numeral.nan]) = true :=
  ⟨by decide +kernel, equalities_fit.2.2.2.1 _ _ rfl,
    equalities_fit.2.2.2.2.1 _ _ (fun _ _ _ => rfl) rfl⟩

end DataBinding.Value
