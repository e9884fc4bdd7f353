import Mathlib
import DataBinding.Decimal.Binary

/-!
# Natural numbers as exact doubles

A natural number below two to the power of fifty-three is a double without rounding, and so are the sum
and the difference of two. The proofs follow the operations: a scaled mantissa is shifted so that zero
bits alone are dropped, and nothing is rounded.

Results:

* `ofNat_add_ofNat`, `ofNat_sub_ofNat`: sums and differences of such numbers are exact.
* `toInt?_ofNat`: the integer part of such a number is the number.
* `toInt?_of_lt_ofNat`: a double between zero and a natural number has a smaller integer part.
-/

namespace DataBinding.Decimal

open Float.Model (Format totalExponent)
open Float.Model.UnpackedFloat

/-! ## Mantissas that fit -/

/-- Shifting out zero bits loses nothing. -/
theorem shiftRight_exact (m j : Nat) :
    (ExtendedMantissa.mk (m * 2 ^ j) false false) >>> j = ExtendedMantissa.mk m false false := by
  show j.repeat ExtendedMantissa.shiftRightOne ⟨m * 2 ^ j, false, false⟩ = _
  induction j generalizing m with
  | zero => simp [Nat.repeat]
  | succ j ih =>
    have hm : m * 2 ^ (j + 1) = m * 2 * 2 ^ j := by ring
    rw [Nat.repeat, hm, ih]
    simp [ExtendedMantissa.shiftRightOne]

theorem log2_mul_two_pow {n : Nat} (hn : 0 < n) (k : Nat) : (n * 2 ^ k).log2 = n.log2 + k := by
  induction k with
  | zero => rw [Nat.pow_zero, Nat.mul_one, Nat.add_zero]
  | succ k ih =>
    have hm : n * 2 ^ (k + 1) = 2 * (n * 2 ^ k) := by ring
    rw [hm, Nat.log2_two_mul (by positivity), ih, Nat.add_assoc]

/-- How far a number is scaled for a mantissa of full width. -/
def room (n : Nat) : Nat := 52 - n.log2

/-- A natural number as an unpacked double. -/
def whole (n : Nat) : Float.Model.UnpackedFloat :=
  if h : 0 < n then .finite .positive (n * 2 ^ room n) (-room n) (by positivity)
  else .zero .positive

section

variable {n : Nat} (hn : 0 < n)
include hn

theorem whole_of_pos : whole n = .finite .positive (n * 2 ^ room n) (-room n) (by positivity) :=
  dif_pos hn

variable (hb : n < 2 ^ 53)
include hb

theorem log2_lt_of_lt : n.log2 < 53 := (Nat.log2_lt hn.ne').2 hb

/-- A mantissa of full width stands for every scaling of the number. -/
theorem targetExponent_scaled (k : Nat) :
    Format.binary64.targetExponent (totalExponent (n * 2 ^ k) (-k)) = -room n := by
  have hlog := log2_lt_of_lt hn hb
  rw [totalExponent, log2_mul_two_pow hn, Format.targetExponent, room]
  show max (_ - ((1 + 52 : Nat) : Int)) (-1074) = _
  omega

theorem shiftToTargetExponent_scaled {k : Nat} (hk : room n ≤ k) :
    shiftToTargetExponent Format.binary64 (n * 2 ^ k) (-k) .exact =
      (ExtendedMantissa.mk (n * 2 ^ room n) false false, -(room n : Int)) := by
  have hj : (-(room n : Int) - -k).toNat = k - room n := by omega
  have hm : n * 2 ^ k = n * 2 ^ room n * 2 ^ (k - room n) := by
    rw [Nat.mul_assoc, ← Nat.pow_add, Nat.add_sub_cancel' hk]
  rw [shiftToTargetExponent, targetExponent_scaled hn hb, shiftToExponent, hj, hm,
    ExtendedMantissa.ofMantissaAndAccuracy, shiftRight_exact]
  congr 1
  omega

/-- A number scaled up is not rounded. -/
theorem roundWithAccuracy_scaled {k : Nat} (hk : room n ≤ k) :
    roundWithAccuracy Format.binary64 .positive (n * 2 ^ k) (-k) .exact = whole n := by
  have hpos : n * 2 ^ room n ≠ 0 := by positivity
  rw [whole_of_pos hn]
  simp [roundWithAccuracy, shiftToTargetExponent_scaled hn hb hk,
    shiftToTargetExponent_scaled hn hb (Nat.le_refl _), ExtendedMantissa.roundedMantissa,
    ExtendedMantissa.accuracy, Accuracy.roundToNearestEven, hpos]

end

theorem decreaseExponent_scaled (n : Nat) {k j : Nat} (h : k ≤ j) :
    decreaseExponent (n * 2 ^ k) (-k) (-j) = (n * 2 ^ j, -(j : Int)) := by
  have hj : (-(k : Int) - -j).toNat = j - k := by omega
  rw [decreaseExponent, hj, Nat.shiftLeft_eq, Nat.mul_assoc, ← Nat.pow_add, Nat.add_sub_cancel' h]
  congr 1
  omega

theorem decreaseExponent_of_le (m : Nat) {e t : Int} (h : e ≤ t) : decreaseExponent m e t = (m, e) := by
  have hj : (e - t).toNat = 0 := by omega
  rw [decreaseExponent, hj]
  simp

/-- A scaled number is not rounded. -/
theorem round_scaled {n : Nat} (hn : 0 < n) (hb : n < 2 ^ 53) (k : Nat) :
    Float.Model.UnpackedFloat.round Format.binary64 .positive (n * 2 ^ k) (-k) = whole n := by
  unfold Float.Model.UnpackedFloat.round
  rw [targetExponent_scaled hn hb]
  dsimp only
  rcases Nat.le_total k (room n) with h | h
  · rw [decreaseExponent_scaled n h]
    exact roundWithAccuracy_scaled hn hb (Nat.le_refl _)
  · rw [decreaseExponent_of_le _ (by omega)]
    exact roundWithAccuracy_scaled hn hb h

theorem normalize_scaled {n : Nat} (hb : n < 2 ^ 53) (k : Nat) :
    Float.Model.UnpackedFloat.normalize Format.binary64 ((n * 2 ^ k : Nat) : Int) (-k) .positive =
      whole n := by
  unfold Float.Model.UnpackedFloat.normalize
  rcases Nat.eq_zero_or_pos n with rfl | hn
  · rw [Nat.zero_mul]
    rfl
  · have hc : compare ((n * 2 ^ k : Nat) : Int) 0 = .gt := compare_gt_iff_gt.2 (by positivity)
    rw [hc]
    exact round_scaled hn hb k

/-! ## Operations on unpacked numbers -/

section

variable {a b : Nat}

theorem add_whole (h : a + b < 2 ^ 53) :
    add Format.binary64 (whole a) (whole b) = whole (a + b) := by
  rcases Nat.eq_zero_or_pos a with rfl | ha
  · rcases Nat.eq_zero_or_pos b with rfl | hb
    · rfl
    · rw [Nat.zero_add, whole_of_pos hb]
      rfl
  rcases Nat.eq_zero_or_pos b with rfl | hb
  · rw [Nat.add_zero, whole_of_pos ha]
    rfl
  have hmin : min (-(room a : Int)) (-room b) = -(max (room a) (room b) : Nat) := by omega
  rw [whole_of_pos ha, whole_of_pos hb, add, hmin, decreaseExponent_scaled a (Nat.le_max_left _ _),
    decreaseExponent_scaled b (Nat.le_max_right _ _)]
  show Float.Model.UnpackedFloat.normalize _
    (((a * 2 ^ max (room a) (room b) : Nat) : Int) + (b * 2 ^ max (room a) (room b) : Nat)) _ _ = _
  rw [← Nat.cast_add, ← Nat.add_mul, normalize_scaled h]

theorem sub_whole (h : b ≤ a) (hlt : a < 2 ^ 53) :
    sub Format.binary64 (whole a) (whole b) = whole (a - b) := by
  rcases Nat.eq_zero_or_pos b with rfl | hb
  · rcases Nat.eq_zero_or_pos a with rfl | ha
    · rfl
    · rw [Nat.sub_zero, whole_of_pos ha]
      rfl
  have ha : 0 < a := Nat.lt_of_lt_of_le hb h
  have hmin : min (-(room a : Int)) (-room b) = -(max (room a) (room b) : Nat) := by omega
  rw [whole_of_pos ha, whole_of_pos hb, sub, hmin, decreaseExponent_scaled a (Nat.le_max_left _ _),
    decreaseExponent_scaled b (Nat.le_max_right _ _)]
  show Float.Model.UnpackedFloat.normalize _
    (((a * 2 ^ max (room a) (room b) : Nat) : Int) - (b * 2 ^ max (room a) (room b) : Nat)) _ _ = _
  rw [← Nat.cast_sub (Nat.mul_le_mul_right _ h), ← Nat.sub_mul, normalize_scaled (by omega)]

theorem mul_whole_one (h : a < 2 ^ 53) : mul Format.binary64 (whole a) (whole 1) = whole a := by
  rcases Nat.eq_zero_or_pos a with rfl | ha
  · rfl
  calc mul Format.binary64 (whole a) (whole 1)
      = roundWithAccuracy Format.binary64 .positive (a * 2 ^ room a * (1 * 2 ^ room 1))
          (-room a + -room 1) .exact := by
        rw [whole_of_pos ha, whole_of_pos Nat.one_pos]
        rfl
    _ = roundWithAccuracy Format.binary64 .positive (a * 2 ^ (room a + room 1))
          (-(room a + room 1 : Nat)) .exact := by
        rw [Nat.one_mul, Nat.mul_assoc, ← Nat.pow_add, ← neg_add, ← Nat.cast_add]
    _ = whole a := roundWithAccuracy_scaled ha h (Nat.le_add_right _ _)

end

/-! ## Packing -/

theorem exponentBias_binary64 : Format.binary64.exponentBias = 1023 := rfl

theorem toNat_leading (m : BitVec 52) : (1#1 ++ m).toNat = 2 ^ 52 + m.toNat := by
  have h := Nat.two_pow_add_eq_or_of_lt m.isLt 1
  rw [Nat.mul_one] at h
  rw [BitVec.toNat_append, BitVec.toNat_ofNat, Nat.shiftLeft_eq, h]

theorem unpack_packComponents (s : Float.Model.UnpackedFloat.Sign) {field : BitVec 11}
    (m : BitVec 52) (h : field ≠ -1#11) (h0 : field ≠ 0#11) :
    unpack Format.binary64 (packComponents Format.binary64 s field m) =
      .finite s (1#1 ++ m).toNat (field.toNat - (1023 + 52))
        (toNat_leading m ▸ by positivity) := by
  simp only [unpack, unpackExponent_packComponents, unpackSign_packComponents,
    Sign.ofBitVec_toBitVec, if_neg h, if_neg h0, unpackMantissa_packComponents,
    exponentBias_binary64]
  rfl

/-- A mantissa of full width is packed and unpacked again. -/
theorem unpack_pack_normal {s : Float.Model.UnpackedFloat.Sign} {m : Nat} {e : Int} (hm : 0 < m)
    (hlog : m.log2 = 52) (hlo : -1074 ≤ e) (hhi : e ≤ 971) :
    unpack Format.binary64 (pack Format.binary64 (.finite s m e hm)) = .finite s m e hm := by
  obtain ⟨hge, hlt⟩ := (Nat.log2_eq_iff hm.ne').1 hlog
  obtain ⟨field, hfield⟩ : ∃ field : Nat, field = (e + 1023 + 52).toNat := ⟨_, rfl⟩
  have hpack : pack Format.binary64 (.finite s m e hm) =
      packComponents Format.binary64 s (BitVec.ofNat 11 field) (BitVec.ofNat 52 m) := by
    rw [pack, exponentBias_binary64, hlog]
    dsimp only
    rw [if_neg, hfield]
    · exact if_pos rfl
    · show ¬ 2 ^ 11 ≤ (e + 1023 + 52).toNat + 1
      omega
  have htoNat : (BitVec.ofNat 11 field).toNat = field := by
    rw [BitVec.toNat_ofNat, Nat.mod_eq_of_lt (by omega)]
  have hne {k : Nat} (hk : k ≠ field) (hlt : k < 2 ^ 11) : BitVec.ofNat 11 field ≠ BitVec.ofNat 11 k := by
    intro h
    have h' := congrArg BitVec.toNat h
    rw [htoNat, BitVec.toNat_ofNat, Nat.mod_eq_of_lt hlt] at h'
    exact hk h'.symm
  rw [hpack, unpack_packComponents s _ (hne (k := 2047) (by omega) (by decide))
    (hne (by omega) (by decide))]
  simp only [Float.Model.UnpackedFloat.finite.injEq, true_and]
  rw [toNat_leading, htoNat, BitVec.toNat_ofNat]
  omega

theorem unpack_pack_whole {n : Nat} (hb : n < 2 ^ 53) :
    (Float.Model.pack (whole n)).unpack = whole n := by
  show unpack Format.binary64 (pack Format.binary64 (whole n)) = whole n
  rcases Nat.eq_zero_or_pos n with rfl | hn
  · exact unpack_packedZero
  · have hlog := log2_lt_of_lt hn hb
    rw [whole_of_pos hn]
    refine unpack_pack_normal _ ?_ ?_ ?_
    · rw [log2_mul_two_pow hn, room]
      omega
    · rw [room]
      omega
    · omega

/-! ## Natural numbers as doubles -/

theorem unpack_ofUInt64 {n : Nat} (hb : n < 2 ^ 53) :
    (Float.Model.ofUInt64 n.toUInt64).unpack = whole n := by
  have hn : n.toUInt64.toNat = n := by
    rw [Nat.toUInt64_eq, UInt64.toNat_ofNat_of_lt' (Nat.lt_trans hb (by decide))]
  have hu : ofUInt64 Format.binary64 n.toUInt64 = whole n := by
    have h := normalize_scaled hb 0
    rw [Nat.pow_zero, Nat.mul_one] at h
    rw [ofUInt64, hn]
    exact h
  show (Float.Model.pack (ofUInt64 Format.binary64 n.toUInt64)).unpack = _
  rw [hu, unpack_pack_whole hb]

/-- A natural number below `2 ^ 53` is a double without rounding. -/
theorem toModel_ofNat {n : Nat} (hb : n < 2 ^ 53) :
    (Float.ofNat n).toModel = Float.Model.pack (whole n) := by
  have hone : (Float.exactlyRepresentablePowersOfTen[0]).toModel = Float.Model.pack (whole 1) := by
    decide +kernel
  show (Float.ofScientific n false 0).toModel = _
  rw [Float.ofScientific, dif_pos ⟨hb, Nat.zero_le _⟩]
  show Float.Model.pack (mul Format.binary64 (Float.Model.ofUInt64 n.toUInt64).unpack
    (Float.exactlyRepresentablePowersOfTen[0]).toModel.unpack) = _
  rw [unpack_ofUInt64 hb, hone, unpack_pack_whole (by decide), mul_whole_one hb]

theorem unpack_ofNat {n : Nat} (hb : n < 2 ^ 53) : (Float.ofNat n).toModel.unpack = whole n := by
  rw [toModel_ofNat hb, unpack_pack_whole hb]

section

variable {a b : Nat}

/-- Sums below `2 ^ 53` are exact. -/
theorem ofNat_add_ofNat (h : a + b < 2 ^ 53) :
    Float.ofNat a + Float.ofNat b = Float.ofNat (a + b) := by
  have hsum : (Float.ofNat a + Float.ofNat b).toModel = (Float.ofNat (a + b)).toModel := by
    rw [toModel_ofNat h, ← add_whole h, ← unpack_ofNat (by omega : a < 2 ^ 53),
      ← unpack_ofNat (by omega : b < 2 ^ 53)]
    rfl
  exact congrArg Float.ofModel hsum

/-- Differences below `2 ^ 53` are exact. -/
theorem ofNat_sub_ofNat (h : b ≤ a) (hlt : a < 2 ^ 53) :
    Float.ofNat a - Float.ofNat b = Float.ofNat (a - b) := by
  have hdiff : (Float.ofNat a - Float.ofNat b).toModel = (Float.ofNat (a - b)).toModel := by
    rw [toModel_ofNat (by omega), ← sub_whole h hlt, ← unpack_ofNat hlt,
      ← unpack_ofNat (by omega : b < 2 ^ 53)]
    rfl
  exact congrArg Float.ofModel hdiff

end

/-! ## Integer parts -/

section

variable (b : BitVec Format.binary64.numBits)

theorem toNat_unpackExponent : (unpackExponent b).toNat = b.toNat / 2 ^ 52 % 2 ^ 11 := by
  change (b.toNat >>> 52) % 2 ^ 11 = _
  rw [Nat.shiftRight_eq_div_pow]

theorem toNat_unpackMantissa : (unpackMantissa b).toNat = b.toNat % 2 ^ 52 := by
  change (b.toNat >>> 0) % 2 ^ 52 = _
  rw [Nat.shiftRight_zero]

theorem toNat_unpackSign : (unpackSign b).toNat = b.toNat / 2 ^ 63 := by
  have hb : b.toNat < 2 ^ 64 := b.isLt
  change (b.toNat >>> 63) % 2 = _
  rw [Nat.shiftRight_eq_div_pow]
  omega

end

theorem beq_negative_ofBitVec (s : BitVec 1) :
    (Sign.ofBitVec s == Sign.negative) = (s.toNat == 1) := by
  revert s
  decide

/-- The exact number of an unpacked double. -/
def exactOf? : Float.Model.UnpackedFloat → Option Binary
  | .infinity _ | .notANumber => none
  | .zero s => some ⟨s == .negative, 0, minExponent⟩
  | .finite s m e _ => some ⟨s == .negative, m, e⟩

/-- The fields of the bits give the exact number of the unpacked double. -/
theorem ofFloat?_eq (x : Float) : Binary.ofFloat? x = exactOf? x.toModel.unpack := by
  obtain ⟨b, hb⟩ : ∃ b : BitVec Format.binary64.numBits, b = x.toModel.toBits.toBitVec := ⟨_, rfl⟩
  have hfield := toNat_unpackExponent b
  have hfraction := toNat_unpackMantissa b
  have hnegative : (Sign.ofBitVec (unpackSign b) == Sign.negative) =
      (b.toNat / 0x8000000000000000 == 1) := by
    rw [beq_negative_ofBitVec, toNat_unpackSign]
    rfl
  have hx : x.toBits.toNat = b.toNat := congrArg BitVec.toNat hb.symm
  show _ = exactOf? (unpack Format.binary64 x.toModel.toBits.toBitVec)
  rw [← hb, Binary.ofFloat?, hx]
  change (unpackExponent b).toNat = b.toNat / topBit % (topField + 1) at hfield
  change (unpackMantissa b).toNat = b.toNat % topBit at hfraction
  simp only [← hfield, ← hfraction, ← hnegative]
  simp only [unpack]
  by_cases htop : unpackExponent b = -1#11
  · have h : (unpackExponent b).toNat = topField := congrArg BitVec.toNat htop
    rw [if_pos h, if_pos htop]
    split <;> rfl
  have h : (unpackExponent b).toNat ≠ topField := fun h => htop (BitVec.eq_of_toNat_eq h)
  rw [if_neg h, if_neg htop]
  by_cases hzero : unpackExponent b = 0#11
  · have h0 : (unpackExponent b).toNat = 0 := congrArg BitVec.toNat hzero
    rw [if_pos h0, if_pos hzero]
    split
    · rename_i hm
      rw [hm]
      rfl
    · rw [exponentBias_binary64, h0]
      rfl
  have h0 : (unpackExponent b).toNat ≠ 0 := fun h => hzero (BitVec.eq_of_toNat_eq h)
  rw [if_neg h0, if_neg hzero, exactOf?, toNat_leading, exponentBias_binary64]
  congr 2
  show _ - 1 + -1074 = _ - ((1023 : Int) + 52)
  omega

/-- The integer part of a positive number whose exponent is not. -/
theorem toInt?_of_scaled {x : Float} {m k : Nat}
    (h : exactOf? x.toModel.unpack = some ⟨false, m, -k⟩) : toInt? x = some ((m / 2 ^ k : Nat) : Int) := by
  have hk : (if 0 ≤ (-(k : Int)) then m * powTwo (-(k : Int)).toNat else m / powTwo (- -(k : Int)).toNat) =
      m / 2 ^ k := by
    rcases Nat.eq_zero_or_pos k with rfl | hk
    · simp [powTwo]
    · rw [if_neg (by omega), neg_neg, Int.toNat_natCast, powTwo, Nat.one_shiftLeft]
  rw [toInt?, ofFloat?_eq, h, Option.map_some]
  dsimp only
  rw [hk, if_neg Bool.false_ne_true]

/-- The integer part of a natural number is the number. -/
theorem toInt?_ofNat {n : Nat} (hb : n < 2 ^ 53) : toInt? (Float.ofNat n) = some (n : Int) := by
  rcases Nat.eq_zero_or_pos n with rfl | hn
  · decide +kernel
  · have h : exactOf? (Float.ofNat n).toModel.unpack = some ⟨false, n * 2 ^ room n, -room n⟩ := by
      rw [unpack_ofNat hb, whole_of_pos hn]
      rfl
    rw [toInt?_of_scaled h, Nat.mul_div_cancel _ (by positivity)]

/-- Two natural numbers below `2 ^ 53` are different doubles. -/
theorem ofNat_inj {a b : Nat} (ha : a < 2 ^ 53) (hb : b < 2 ^ 53) :
    Float.ofNat a = Float.ofNat b ↔ a = b := by
  refine ⟨fun h => ?_, fun h => by rw [h]⟩
  have hint := congrArg toInt? h
  rw [toInt?_ofNat ha, toInt?_ofNat hb] at hint
  exact Int.ofNat_inj.1 (Option.some.inj hint)

/-- A mantissa that compares less with a scaled number stands for less. -/
theorem div_lt_of_compare {i m : Nat} {e : Int} (hi : 0 < i) (hb : i < 2 ^ 53) (hm : m < 2 ^ 53)
    (h : (compare e (-room i)).then (compare m (i * 2 ^ room i)) = .lt) :
    ∃ k : Nat, e = -k ∧ m / 2 ^ k < i := by
  rcases Ordering.then_eq_lt.1 h with he | ⟨he, hlt⟩
  · rw [compare_lt_iff_lt] at he
    have hlog := log2_lt_of_lt hi hb
    -- one bit more than the number has room for
    have hfull : 2 ^ 53 ≤ i * 2 ^ (room i + 1) := calc
      2 ^ 53 = 2 ^ i.log2 * 2 ^ (room i + 1) := by
        rw [← Nat.pow_add, room]
        congr 1
        omega
      _ ≤ i * 2 ^ (room i + 1) := Nat.mul_le_mul_right _ (Nat.log2_self_le hi.ne')
    have hmore : i * 2 ^ (room i + 1) ≤ i * 2 ^ (-e).toNat :=
      Nat.mul_le_mul_left _ (Nat.pow_le_pow_right (by decide) (by omega))
    exact ⟨(-e).toNat, by omega, Nat.div_lt_of_lt_mul (by rw [Nat.mul_comm]; omega)⟩
  · rw [compare_eq_iff_eq] at he
    rw [compare_lt_iff_lt] at hlt
    exact ⟨room i, he, Nat.div_lt_of_lt_mul (by rwa [Nat.mul_comm])⟩

theorem compare_zero_of_nonneg {x : Float} (h : 0.0 ≤ x) :
    ((whole 0).compare x.toModel.unpack).any (·.isLE) = true := by
  have hzero : (0.0 : Float).toModel = Float.Model.pack (whole 0) := by decide +kernel
  have hle : ((0.0 : Float).toModel.unpack.compare x.toModel.unpack).any (·.isLE) = true :=
    of_decide_eq_true h
  rwa [hzero, unpack_pack_whole (by decide)] at hle

theorem compare_of_lt_ofNat {i : Nat} (hb : i < 2 ^ 53) {x : Float} (h : x < Float.ofNat i) :
    x.toModel.unpack.compare (whole i) = some .lt := by
  have hlt : (x.toModel.unpack.compare (Float.ofNat i).toModel.unpack == some .lt) = true :=
    of_decide_eq_true h
  rw [unpack_ofNat hb] at hlt
  exact eq_of_beq hlt

/-- What is at least zero and below a number is a zero or positive, and finite. -/
theorem zero_or_positive {u : Float.Model.UnpackedFloat} {i : Nat}
    (h0 : ((whole 0).compare u).any (·.isLE) = true) (h : u.compare (whole i) = some .lt) :
    0 < i ∧ ((∃ s, u = .zero s) ∨ ∃ m e hm, u = .finite .positive m e hm) := by
  have hi : whole i = .zero .positive ∨ 0 < i := by
    rcases Nat.eq_zero_or_pos i with rfl | hi
    · exact Or.inl rfl
    · exact Or.inr hi
  cases u with
  | notANumber => cases h
  | infinity s =>
    cases s with
    | negative => cases h0
    | positive =>
      rcases hi with hi | hi
      · rw [hi] at h
        cases h
      · rw [whole_of_pos hi] at h
        cases h
  | zero s =>
    rcases hi with hi | hi
    · rw [hi] at h
      cases h
    · exact ⟨hi, Or.inl ⟨s, rfl⟩⟩
  | finite s m e hm =>
    cases s with
    | negative => cases h0
    | positive =>
      rcases hi with hi | hi
      · rw [hi] at h
        cases h
      · exact ⟨hi, Or.inr ⟨m, e, hm, rfl⟩⟩

/-- A double between zero and a natural number has a smaller integer part. -/
theorem toInt?_of_lt_ofNat {i : Nat} (hb : i < 2 ^ 53) {x : Float} (h0 : 0.0 ≤ x)
    (h : x < Float.ofNat i) : ∃ m : Nat, m < i ∧ toInt? x = some (m : Int) := by
  have hlt := compare_of_lt_ofNat hb h
  obtain ⟨hi, ⟨s, hu⟩ | ⟨m, e, hm, hu⟩⟩ := zero_or_positive (compare_zero_of_nonneg h0) hlt
  · refine ⟨0, hi, ?_⟩
    rw [toInt?, ofFloat?_eq, hu]
    cases s <;> rfl
  · have hmlt : m < 2 ^ 53 := by
      have hexact := ofFloat?_eq x
      rw [hu] at hexact
      exact Binary.mantissa_lt hexact
    rw [hu, whole_of_pos hi] at hlt
    obtain ⟨k, rfl, hk⟩ := div_lt_of_compare hi hb hmlt (Option.some.inj hlt)
    refine ⟨_, hk, toInt?_of_scaled ?_⟩
    rw [hu]
    rfl

end DataBinding.Decimal
