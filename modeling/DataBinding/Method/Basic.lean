import DataBinding.Eval.Basic
import DataBinding.Value.Numeral

/-!
# Arguments of methods

A missing argument is undefined. A bound of a slice is cut to an integer, counts from the end if it is
negative, and is kept within the length.

Results:

* `sliceBound_le`: a bound is within the length.
* `slice_all`: without bounds the slice is the whole list.
-/

namespace DataBinding

/-- The argument at a position. -/
def argument (args : List Value) (i : Nat) : Value := args[i]?.getD .undefined

/-- The argument at a position, as a text. -/
def argumentText (args : List Value) (i : Nat) : String := (argument args i).toText

/-- The bound of a slice within a length, for a number. -/
def boundWithin (length : Nat) (x : Float) : Nat :=
  match Decimal.toInt? x with
  | some n => if n < 0 then (length + n).toNat else min n.toNat length
  | none => if 0.0 < x then length else 0

/-- The bound of a slice within a length; undefined stands for `default`. -/
def sliceBound (length default : Nat) : Value → Nat
  | .undefined => default
  | v => boundWithin length v.toNumber

/-- The part of a list between two bounds. -/
def slice {α : Type} (xs : List α) (start stop : Value) : List α :=
  (xs.drop (sliceBound xs.length 0 start)).take
    (sliceBound xs.length xs.length stop - sliceBound xs.length 0 start)

/-- The value of a position: minus one stands for none. -/
def ofPosition? : Option Nat → Value
  | some i => .ofNat i
  | none => .number (-1.0)

theorem boundWithin_le (length : Nat) (x : Float) : boundWithin length x ≤ length := by
  unfold boundWithin
  split
  · split <;> omega
  · split <;> omega

/-- A bound is within the length. -/
theorem sliceBound_le {length default : Nat} (h : default ≤ length) (v : Value) :
    sliceBound length default v ≤ length := by
  unfold sliceBound
  split
  · exact h
  · exact boundWithin_le _ _

/-- Without bounds the slice is the whole list. -/
theorem slice_all {α : Type} (xs : List α) : slice xs .undefined .undefined = xs := by
  simp [slice, sliceBound]

end DataBinding
