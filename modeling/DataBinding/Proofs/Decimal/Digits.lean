import DataBinding.Decimal.Reader

/-!
# Digits of natural numbers

The decimal digits of a natural number and the number of a run of digits are inverse to each other, if
a run of more than one digit does not start with zero.

Results:

* `natOfDigits_toDigits`: the digits of a number are read as that number.
* `toDigits_natOfDigits`: a run of digits without a leading zero is the digits of its number.
* `ne_zero_of_toDigits_eq_cons`: the digits of a positive number do not start with zero.
-/

namespace DataBinding.Decimal

theorem natOfDigits_eq_ofDigitChars (ds : List Char) : natOfDigits ds = Nat.ofDigitChars 10 ds 0 :=
  Nat.ofDigitChars_eq_foldl.symm

/-- The digits of a number are read as that number. -/
theorem natOfDigits_toDigits (n : Nat) : natOfDigits (Nat.toDigits 10 n) = n := by
  rw [natOfDigits_eq_ofDigitChars, Nat.ofDigitChars_ten_toDigits]

theorem digitChar_of_isDigit {c : Char} (h : c.isDigit = true) :
    c.toNat - 48 < 10 ∧ Nat.digitChar (c.toNat - 48) = c := by
  obtain ⟨hlo, hhi⟩ : 48 ≤ c.toNat ∧ c.toNat ≤ 57 := by
    simpa [Char.isDigit, UInt32.le_iff_toNat_le] using h
  refine ⟨by omega, Char.toNat_inj.1 ?_⟩
  rw [Nat.toNat_digitChar_of_lt_ten (by omega)]
  omega

/-- Digits behind those of a positive number make the digits of a larger one. -/
theorem toDigits_append {n : Nat} (hn : 0 < n) {ds : List Char} (h : ds.all Char.isDigit = true) :
    Nat.toDigits 10 n ++ ds = Nat.toDigits 10 (Nat.ofDigitChars 10 ds n) := by
  -- `n` is the number of the digits read so far, which stays positive
  induction ds generalizing n with
  | nil => rw [List.append_nil, Nat.ofDigitChars_nil]
  | cons d ds ih =>
    rw [List.all_cons, Bool.and_eq_true] at h
    obtain ⟨hd, hchar⟩ := digitChar_of_isDigit h.1
    calc Nat.toDigits 10 n ++ d :: ds
        = (Nat.toDigits 10 n ++ Nat.toDigits 10 (d.toNat - 48)) ++ ds := by
          rw [Nat.toDigits_of_lt_base hd, hchar, List.append_assoc, List.singleton_append]
      _ = Nat.toDigits 10 (10 * n + (d.toNat - 48)) ++ ds := by
          rw [Nat.toDigits_append_toDigits (by decide) hn hd]
      _ = Nat.toDigits 10 (Nat.ofDigitChars 10 (d :: ds) n) := by
          rw [ih (by omega) h.2, Nat.ofDigitChars_cons]
          rfl

/-- A run of digits without a leading zero is the digits of its number. -/
theorem toDigits_natOfDigits {c : Char} {ds : List Char} (h : (c :: ds).all Char.isDigit = true)
    (hlead : ds = [] ∨ c ≠ '0') : Nat.toDigits 10 (natOfDigits (c :: ds)) = c :: ds := by
  rw [List.all_cons, Bool.and_eq_true] at h
  obtain ⟨hlt, hc⟩ := digitChar_of_isDigit h.1
  have hfirst : Nat.toDigits 10 (c.toNat - 48) = [c] := by rw [Nat.toDigits_of_lt_base hlt, hc]
  have hvalue : natOfDigits (c :: ds) = Nat.ofDigitChars 10 ds (c.toNat - 48) := by
    rw [natOfDigits_eq_ofDigitChars, Nat.ofDigitChars_cons, Nat.mul_zero, Nat.zero_add]
    rfl
  rw [hvalue]
  rcases hlead with rfl | hne
  · rw [Nat.ofDigitChars_nil, hfirst]
  · have hpos : 0 < c.toNat - 48 := by
      refine Nat.pos_of_ne_zero fun h0 => hne ?_
      rw [← hc, h0]
      rfl
    rw [← toDigits_append hpos h.2, hfirst, List.singleton_append]

/-- The digits of a positive number do not start with zero. -/
theorem ne_zero_of_toDigits_eq_cons {n : Nat} (hn : 0 < n) {c : Char} {ds : List Char}
    (h : Nat.toDigits 10 n = c :: ds) : c ≠ '0' := by
  -- the first digit of a number of several digits is the first one of its tenth
  induction n using Nat.strongRecOn generalizing ds with
  | ind n ih =>
    rw [Nat.toDigits_eq_if (by decide)] at h
    split at h
    · cases h
      rw [Ne, Nat.digitChar_eq_zero]
      exact Nat.ne_of_gt hn
    · cases hfront : Nat.toDigits 10 (n / 10) with
      | nil => exact absurd hfront Nat.toDigits_ne_nil
      | cons d front =>
        rw [hfront] at h
        cases h
        exact ih _ (by omega) (by omega) hfront

end DataBinding.Decimal
