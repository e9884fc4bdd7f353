import Mathlib
import DataBinding.Decimal.Binary

/-!
# Integers as doubles

A natural number is made a double by operations on positive numbers, none of which gives a minus sign.

Results:

* `ofNat_ne_neg_one`: no natural number is the double minus one.
-/

namespace DataBinding.Decimal

open Float.Model (Format)
open Float.Model.UnpackedFloat

/-- Is there no minus sign? What is no number has none. -/
def isUnsigned : Float.Model.UnpackedFloat → Bool
  | .infinity .negative | .zero .negative | .finite .negative .. => false
  | _ => true

theorem isUnsigned_unpack_packComponents (e : BitVec 11) (m : BitVec 52) :
    isUnsigned (unpack Format.binary64 (packComponents Format.binary64 .positive e m)) = true := by
  unfold unpack
  dsimp only
  rw [unpackSign_packComponents, Sign.ofBitVec_toBitVec]
  split_ifs <;> rfl

theorem isUnsigned_unpack_pack {u : Float.Model.UnpackedFloat} (h : isUnsigned u = true) :
    isUnsigned (unpack Format.binary64 (pack Format.binary64 u)) = true := by
  cases u with
  | notANumber =>
    rw [pack, unpack_packedNaN]
    rfl
  | infinity s =>
    cases s with
    | negative => cases h
    | positive => exact isUnsigned_unpack_packComponents _ _
  | zero s =>
    cases s with
    | negative => cases h
    | positive => exact isUnsigned_unpack_packComponents _ _
  | finite s m e hm =>
    cases s with
    | negative => cases h
    | positive =>
      rw [pack]
      dsimp only
      split_ifs <;> exact isUnsigned_unpack_packComponents _ _

theorem isUnsigned_roundWithAccuracy (m : Nat) (e : Int) (a : Accuracy) :
    isUnsigned (roundWithAccuracy Format.binary64 .positive m e a) = true := by
  unfold roundWithAccuracy
  dsimp only
  split_ifs <;> rfl

theorem isUnsigned_mul_finite {m m' : Nat} {e e' : Int} (h : 0 < m) (h' : 0 < m') :
    isUnsigned (mul Format.binary64 (.finite .positive m e h) (.finite .positive m' e' h')) = true :=
  isUnsigned_roundWithAccuracy _ _ _

theorem isUnsigned_mul {u v : Float.Model.UnpackedFloat} (hu : isUnsigned u = true)
    (hv : isUnsigned v = true) : isUnsigned (mul Format.binary64 u v) = true := by
  cases u with
  | notANumber => rfl
  | infinity s | zero s =>
    cases s with
    | negative => cases hu
    | positive =>
      cases v with
      | notANumber => rfl
      | infinity s | zero s | finite s =>
        cases s with
        | negative => cases hv
        | positive => rfl
  | finite s m e hm =>
    cases s with
    | negative => cases hu
    | positive =>
      cases v with
      | notANumber => rfl
      | infinity s | zero s =>
        cases s with
        | negative => cases hv
        | positive => rfl
      | finite s =>
        cases s with
        | negative => cases hv
        | positive => exact isUnsigned_roundWithAccuracy _ _ _

theorem isUnsigned_ofNat (n : Nat) : isUnsigned (ofNat Format.binary64 n) = true := by
  unfold ofNat ofInt Float.Model.UnpackedFloat.normalize
  cases n with
  | zero => rfl
  | succ n =>
    have h : compare ((n + 1 : Nat) : Int) 0 = .gt := compare_gt_iff_gt.2 (by omega)
    rw [h]
    exact isUnsigned_roundWithAccuracy _ _ _

theorem isUnsigned_ofScientific (n : Nat) :
    isUnsigned (ofScientific Format.binary64 n 0) = true := by
  have hhigh : ¬ (0 : Int) > 2 ^ Format.binary64.exponentBits := by decide
  have hlow : ¬ (0 : Int) < -(2 ^ Format.binary64.exponentBits + (n.log2 : Int)) := by
    show ¬ (0 : Int) < -(2 ^ 11 + (n.log2 : Int))
    omega
  unfold ofScientific
  by_cases hn : n = 0
  · rw [dif_pos hn]
    rfl
  rw [dif_neg hn, if_neg hhigh, if_neg hlow, if_pos le_rfl]
  exact isUnsigned_mul_finite _ _

/-- A natural number as a double has no minus sign. -/
theorem isUnsigned_toModel_ofNat (n : Nat) : isUnsigned (Float.ofNat n).toModel.unpack = true := by
  show isUnsigned (Float.ofScientific n false 0).toModel.unpack = true
  unfold Float.ofScientific
  split
  · refine isUnsigned_unpack_pack (isUnsigned_mul (isUnsigned_unpack_pack (isUnsigned_ofNat _)) ?_)
    show isUnsigned (Float.exactlyRepresentablePowersOfTen[0]).toModel.unpack = true
    decide +kernel
  · exact isUnsigned_unpack_pack (isUnsigned_ofScientific n)

theorem ofNat_ne_neg_one (n : Nat) : Float.ofNat n ≠ -1.0 := by
  intro h
  have hu := isUnsigned_toModel_ofNat n
  rw [h] at hu
  revert hu
  decide +kernel

end DataBinding.Decimal
