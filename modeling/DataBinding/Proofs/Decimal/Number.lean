import DataBinding.Decimal.Reader
import DataBinding.Proofs.Decimal.Exact

/-!
# Decimal texts as numbers

What is read as a decimal text is a number: rounding ends at infinity and goes no further, and a sign in
front makes no difference to that.

Results:

* `isNaN_nearest`: the double nearest to a ratio is a number.
* `isNaN_of_read?`: so is the double of a decimal text.
-/

namespace DataBinding.Decimal

open Float.Model (Format)
open Float.Model.UnpackedFloat

/-! ## Unpacked numbers -/

/-- The bits are those of a number unless the topmost exponent field has a mantissa. -/
theorem isNaN_unpack {b : BitVec Format.binary64.numBits}
    (h : unpackExponent b = -1#11 → unpackMantissa b = 0#52) :
    (unpack Format.binary64 b).isNaN = false := by
  unfold unpack
  dsimp only
  split_ifs with htop hzero
  · rfl
  · exact absurd (h htop) hzero
  all_goals rfl

/-- A number is packed as a number. -/
theorem isNaN_unpack_pack {u : Float.Model.UnpackedFloat} (h : u.isNaN = false) :
    (unpack Format.binary64 (pack Format.binary64 u)).isNaN = false := by
  have infinite (s : Sign) :
      (unpack Format.binary64 (packedInfinity Format.binary64 s)).isNaN = false :=
    isNaN_unpack fun _ => unpackMantissa_packComponents
  have small (s : Sign) {field : Nat} (m : BitVec 52) (hfield : field + 1 < 2 ^ 11) :
      (unpack Format.binary64
        (packComponents Format.binary64 s (BitVec.ofNat 11 field) m)).isNaN = false := by
    refine isNaN_unpack fun htop => absurd ?_ (by omega : field ≠ 2047)
    have htoNat : field % 2 ^ 11 = 2047 :=
      congrArg BitVec.toNat (unpackExponent_packComponents.symm.trans htop)
    rwa [Nat.mod_eq_of_lt (by omega)] at htoNat
  cases u with
  | notANumber => cases h
  | infinity s => exact infinite s
  | zero s =>
    rw [pack, unpack_packedZero]
    rfl
  | finite s m e hm =>
    rw [pack]
    dsimp only
    split_ifs with htop
    · exact infinite s
    · exact small s _ (Nat.lt_of_not_le htop)
    · exact small s _ (by decide)

/-! ## Doubles -/

theorem isNaN_neg {x : Float} (h : x.isNaN = false) : (-x).isNaN = false := by
  have hneg : x.toModel.unpack.neg.isNaN = false := by
    change x.toModel.unpack.isNaN = false at h
    cases hu : x.toModel.unpack with
    | notANumber => rw [hu] at h; cases h
    | infinity | zero | finite => rfl
  exact isNaN_unpack_pack hneg

/-- Bits up to those of infinity are a number. -/
theorem isNaN_ofBits {bits : Nat} (h : bits ≤ topField * topBit) :
    (Float.ofBits (UInt64.ofNat bits)).isNaN = false := by
  refine isNaN_unpack_pack (isNaN_unpack fun htop => ?_)
  have hbits : (UInt64.ofNat bits).toBitVec.toNat = bits := by
    show (UInt64.ofNat bits).toNat = bits
    rw [UInt64.toNat_ofNat_of_lt' (Nat.lt_of_le_of_lt h (by decide))]
  have hexponent := congrArg BitVec.toNat htop
  rw [toNat_unpackExponent, hbits] at hexponent
  change bits / 2 ^ 52 % 2 ^ 11 = 2047 at hexponent
  change bits ≤ 2047 * 2 ^ 52 at h
  refine BitVec.eq_of_toNat_eq ?_
  rw [toNat_unpackMantissa, hbits]
  show bits % 2 ^ 52 = 0
  omega

/-- The double nearest to a ratio is a number. -/
theorem isNaN_nearest (num den : Nat) : (nearest num den).isNaN = false := by
  rw [nearest]
  split
  · rfl
  · exact isNaN_ofBits (Nat.min_le_right _ _)

theorem isNaN_scaled (n : Nat) (e : Int) : (scaled n e).isNaN = false := by
  rw [scaled]
  dsimp only
  split_ifs
  · rfl
  · rfl
  · rfl
  · exact isNaN_nearest _ _
  · exact isNaN_nearest _ _

theorem read?_eq (cs : List Char) : read? cs = (readParts? (takeSign cs).2).map fun p =>
    if (takeSign cs).1 then -p.toFloat else p.toFloat := rfl

/-- The double of a decimal text is a number. -/
theorem isNaN_of_read? {cs : List Char} {x : Float} (h : read? cs = some x) : x.isNaN = false := by
  rw [read?_eq] at h
  obtain ⟨p, -, hp⟩ := Option.map_eq_some_iff.1 h
  have hfloat : p.toFloat.isNaN = false := isNaN_scaled _ _
  cases hsign : (takeSign cs).1 with
  | true => rw [← hp, if_pos hsign, isNaN_neg hfloat]
  | false => rw [← hp, if_neg (ne_true_of_eq_false hsign), hfloat]

end DataBinding.Decimal
