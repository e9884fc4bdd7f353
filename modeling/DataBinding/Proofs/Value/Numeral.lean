import DataBinding.Proofs.Decimal.Number
import DataBinding.Proofs.Text.Places
import DataBinding.Proofs.Token.Numbers
import DataBinding.Value.Numeral

/-!
# The longest numeral at the start of a text

A numeral is `Infinity` or a decimal number, with or without a sign. The spans of a text take the sign,
the mantissa and the exponent ahead, each as long as it goes. That what they take is the longest numeral
needs more than that each one is greedy: a longer mantissa could leave an exponent behind. It cannot,
since the mark of an exponent is no part of a mantissa.

Results:

* `isLongest_iff`: the span of a text is its longest numeral, and it is empty only where there is none.
* `isNumeral_iff`: a text is a numeral when all of it is taken.
* `ofFloatPrefix_of_isLongest`: the number at the start of a text is the number of its longest numeral.
* `isNaN_ofFloatPrefix_iff`: it is not a number where no numeral is ahead.
-/

namespace DataBinding.Numeral

/-! ## Numerals -/

/-- Digits alone. -/
def IsDigits (cs : List Char) : Prop := ∀ c ∈ cs, c.isDigit = true

/-- A sign, or nothing. -/
inductive MaybeSign : List Char → Prop where
  | none : MaybeSign []
  | sign {c : Char} (h : IsSign c) : MaybeSign [c]

/-- Digits, alone or with a point behind them and more digits or none behind that, or a point with
    digits behind it. -/
inductive IsMantissa : List Char → Prop where
  | whole {ds : List Char} (h : IsDigits ds) (hne : ds ≠ []) : IsMantissa ds
  | pointed {ds fs : List Char} (h : IsDigits ds) (hne : ds ≠ []) (hf : IsDigits fs) :
    IsMantissa (ds ++ '.' :: fs)
  | fraction {fs : List Char} (hf : IsDigits fs) (hne : fs ≠ []) : IsMantissa ('.' :: fs)

/-- A mark, a sign or none, and digits, or nothing. -/
inductive MaybeExponent : List Char → Prop where
  | none : MaybeExponent []
  | exponent {c : Char} {sign ds : List Char} (hc : c = 'e' ∨ c = 'E') (hs : MaybeSign sign)
    (h : IsDigits ds) (hne : ds ≠ []) : MaybeExponent (c :: (sign ++ ds))

/-- A decimal number. -/
inductive IsDecimal : List Char → Prop where
  | mk {sign m e : List Char} (hs : MaybeSign sign) (hm : IsMantissa m) (he : MaybeExponent e) :
    IsDecimal (sign ++ (m ++ e))

/-- A decimal number or an infinity. -/
inductive IsNumeral : List Char → Prop where
  | infinity {sign : List Char} (hs : MaybeSign sign) : IsNumeral (sign ++ "Infinity".toList)
  | decimal {p : List Char} (h : IsDecimal p) : IsNumeral p

/-- A numeral at the start of a text that no longer one is at the start of. -/
structure IsLongest (p cs : List Char) : Prop where
  ahead : p <+: cs
  numeral : IsNumeral p
  longest : ∀ q, q <+: cs → IsNumeral q → q.length ≤ p.length

/-- The character at the start, if there is one, is none of these. -/
def Stops (p : Char → Prop) (cs : List Char) : Prop := ∀ c ∈ cs.head?, ¬ p c

theorem IsDigits.exists_cons {ds : List Char} (h : IsDigits ds) (hne : ds ≠ []) :
    ∃ c cs, ds = c :: cs ∧ c.isDigit = true := by
  obtain ⟨c, cs, rfl⟩ := List.exists_cons_of_ne_nil hne
  exact ⟨c, cs, rfl, h c List.mem_cons_self⟩

/-- A mantissa starts with a digit or a point. -/
theorem IsMantissa.exists_cons {m : List Char} (h : IsMantissa m) :
    ∃ c cs, m = c :: cs ∧ (c.isDigit = true ∨ c = '.') := by
  cases h with
  | whole h hne =>
    obtain ⟨c, cs, rfl, hc⟩ := h.exists_cons hne
    exact ⟨c, cs, rfl, .inl hc⟩
  | pointed h hne hf =>
    obtain ⟨c, cs, rfl, hc⟩ := h.exists_cons hne
    exact ⟨c, cs ++ _, rfl, .inl hc⟩
  | fraction hf hne => exact ⟨'.', _, rfl, .inr rfl⟩

theorem IsDecimal.ne_nil {p : List Char} (h : IsDecimal p) : p ≠ [] := by
  obtain ⟨hs, hm, he⟩ := h
  obtain ⟨c, cs, rfl, -⟩ := hm.exists_cons
  simp

theorem IsNumeral.ne_nil {p : List Char} (h : IsNumeral p) : p ≠ [] := by
  cases h with
  | infinity hs => simp
  | decimal h => exact h.ne_nil

/-! ## Signs and digits -/

section

variable {ds t : List Char}

theorem digitSpan_digits_append (h : IsDigits ds) (t : List Char) :
    digitSpan (ds ++ t) = (ds ++ (digitSpan t).1, (digitSpan t).2) := by
  rw [digitSpan, List.takeWhile_append_of_pos h, List.dropWhile_append_of_pos h]
  rfl

theorem digitSpan_of_stops (ht : Stops (·.isDigit = true) t) : digitSpan t = ([], t) := by
  cases t with
  | nil => rfl
  | cons c t =>
    have hc : ¬ c.isDigit = true := ht c rfl
    rw [digitSpan, List.takeWhile_cons_of_neg hc, List.dropWhile_cons_of_neg hc]

theorem isDigits_digitSpan (cs : List Char) : IsDigits (digitSpan cs).1 :=
  fun _ hc => List.mem_takeWhile_imp hc

theorem maybeSign_signSpan (cs : List Char) : MaybeSign (signSpan cs).1 := by
  unfold signSpan
  split
  · exact .sign (.inl rfl)
  · exact .sign (.inr rfl)
  · exact .none

theorem signSpan_of_stops (ht : Stops IsSign t) : signSpan t = ([], t) := by
  unfold signSpan
  split
  · exact absurd (.inl rfl) (ht '+' rfl)
  · exact absurd (.inr rfl) (ht '-' rfl)
  · rfl

theorem signSpan_sign_append {sign : List Char} (hs : MaybeSign sign) (ht : Stops IsSign t) :
    signSpan (sign ++ t) = (sign, t) := by
  cases hs with
  | none => exact signSpan_of_stops ht
  | sign h => rcases h with rfl | rfl <;> rfl

/-- Digits do not start with a sign. -/
theorem IsDigits.stops_isSign (h : IsDigits ds) (hne : ds ≠ []) (t : List Char) :
    Stops IsSign (ds ++ t) := by
  obtain ⟨c, cs, rfl, hc⟩ := h.exists_cons hne
  rintro _ ⟨⟩ hsign
  exact absurd hc (ne_true_of_eq_false (Decimal.isDigit_of_isSign hsign))

/-- A mantissa does not start with a sign. -/
theorem IsMantissa.stops_isSign {m : List Char} (h : IsMantissa m) (t : List Char) :
    Stops IsSign (m ++ t) := by
  obtain ⟨c, cs, rfl, hc⟩ := h.exists_cons
  rintro _ ⟨⟩ hsign
  rcases hc with hc | rfl
  · exact absurd hc (ne_true_of_eq_false (Decimal.isDigit_of_isSign hsign))
  · revert hsign
    decide

end

/-! ## Mantissas -/

section

variable {ds fs m t : List Char}

theorem fractionSpan_of_ne (ht : ∀ rest, t ≠ '.' :: rest) : fractionSpan t = ([], t) := by
  unfold fractionSpan
  split
  · exact absurd rfl (ht _)
  · rfl

theorem mantissaSpan_eq (cs : List Char) : mantissaSpan cs =
    if (digitSpan cs).1 = [] ∧ (fractionSpan (digitSpan cs).2).1.length ≤ 1 then ([], cs)
    else ((digitSpan cs).1 ++ (fractionSpan (digitSpan cs).2).1,
      (fractionSpan (digitSpan cs).2).2) := rfl

theorem mantissaSpan_whole (h : IsDigits ds) (hne : ds ≠ []) (t : List Char) :
    mantissaSpan (ds ++ t) = (ds ++ (digitSpan t).1 ++ (fractionSpan (digitSpan t).2).1,
      (fractionSpan (digitSpan t).2).2) := by
  rw [mantissaSpan_eq, digitSpan_digits_append h, if_neg]
  exact fun hnil => hne (List.append_eq_nil_iff.1 hnil.1).1

theorem mantissaSpan_pointed (h : IsDigits ds) (hf : IsDigits fs) (hne : ds ≠ [] ∨ fs ≠ [])
    (t : List Char) : mantissaSpan (ds ++ '.' :: (fs ++ t)) =
      (ds ++ '.' :: (fs ++ (digitSpan t).1), (digitSpan t).2) := by
  have hstop : digitSpan ('.' :: (fs ++ t)) = ([], '.' :: (fs ++ t)) :=
    digitSpan_of_stops (by rintro _ ⟨⟩; decide)
  rw [mantissaSpan_eq, digitSpan_digits_append h, hstop, fractionSpan, digitSpan_digits_append hf,
    List.append_nil, if_neg]
  rintro ⟨hds, hlength⟩
  have hfs := List.length_pos_iff.2 (hne.resolve_left (not_not_intro hds))
  simp only [List.length_cons, List.length_append] at hlength
  omega

theorem mantissaSpan_fraction (hf : IsDigits fs) (hne : fs ≠ []) (t : List Char) :
    mantissaSpan ('.' :: (fs ++ t)) = ('.' :: (fs ++ (digitSpan t).1), (digitSpan t).2) :=
  mantissaSpan_pointed (List.forall_mem_nil _ : IsDigits []) hf (.inr hne) t

/-- A mantissa is part of what is taken where it stands. -/
theorem IsMantissa.prefix_mantissaSpan (h : IsMantissa m) (t : List Char) :
    m <+: (mantissaSpan (m ++ t)).1 := by
  cases h with
  | whole h hne =>
    rw [mantissaSpan_whole h hne, List.append_assoc]
    exact List.prefix_append _ _
  | @pointed ds fs h hne hf =>
    rw [List.append_assoc, List.cons_append, mantissaSpan_pointed h hf (.inl hne)]
    exact ⟨(digitSpan t).1, by simp⟩
  | @fraction fs hf hne =>
    rw [List.cons_append, mantissaSpan_fraction hf hne]
    exact ⟨(digitSpan t).1, by simp⟩

/-- Before a character of no mantissa, a mantissa is all that is taken. -/
theorem IsMantissa.mantissaSpan_append (h : IsMantissa m)
    (ht : Stops (fun c => c.isDigit = true ∨ c = '.') t) : mantissaSpan (m ++ t) = (m, t) := by
  have hdigit : digitSpan t = ([], t) := digitSpan_of_stops fun c hc h => ht c hc (.inl h)
  cases h with
  | whole h hne =>
    have hfraction : fractionSpan t = ([], t) :=
      fractionSpan_of_ne (by rintro rest rfl; exact ht '.' rfl (.inr rfl))
    rw [mantissaSpan_whole h hne, hdigit, hfraction, List.append_nil, List.append_nil]
  | @pointed ds fs h hne hf =>
    rw [List.append_assoc, List.cons_append, mantissaSpan_pointed h hf (.inl hne), hdigit,
      List.append_nil]
  | @fraction fs hf hne =>
    rw [List.cons_append, mantissaSpan_fraction hf hne, hdigit, List.append_nil]

/-- What is taken as a fraction is a point and digits, or nothing. -/
theorem fractionSpan_cases (cs : List Char) :
    (fractionSpan cs).1 = [] ∨ ∃ fs, IsDigits fs ∧ (fractionSpan cs).1 = '.' :: fs := by
  unfold fractionSpan
  split
  · exact .inr ⟨_, isDigits_digitSpan _, rfl⟩
  · exact .inl rfl

/-- What is taken as a mantissa is one. -/
theorem isMantissa_mantissaSpan {cs : List Char} (hne : (mantissaSpan cs).1 ≠ []) :
    IsMantissa (mantissaSpan cs).1 := by
  have hds := isDigits_digitSpan cs
  rw [mantissaSpan_eq] at hne ⊢
  split at hne
  · exact absurd rfl hne
  rename_i h
  rw [if_neg h]
  dsimp only
  rcases fractionSpan_cases (digitSpan cs).2 with hnil | ⟨fs, hfs, hcons⟩
  · rw [hnil, List.append_nil]
    refine .whole hds fun hwhole => h ⟨hwhole, ?_⟩
    rw [hnil]
    exact Nat.zero_le _
  · rw [hcons] at h ⊢
    rcases eq_or_ne (digitSpan cs).1 [] with hwhole | hwhole
    · rw [hwhole, List.nil_append]
      refine .fraction hfs fun hfraction => h ⟨hwhole, ?_⟩
      rw [hfraction]
      exact Nat.le_refl _
    · exact .pointed hds hwhole hfs

end

/-! ## Exponents -/

section

variable {e : List Char}

theorem maybeExponent_exponentSpan (cs : List Char) : MaybeExponent (exponentSpan cs).1 := by
  unfold exponentSpan
  split
  · exact .none
  · rename_i c rest
    split
    · rename_i h
      exact .exponent h.1 (maybeSign_signSpan rest) (isDigits_digitSpan _) h.2
    · exact .none

/-- An exponent is part of what is taken where it stands. -/
theorem MaybeExponent.prefix_exponentSpan (h : MaybeExponent e) (t : List Char) :
    e <+: (exponentSpan (e ++ t)).1 := by
  cases h with
  | none => exact List.nil_prefix
  | @exponent c sign ds hc hs h hne =>
    have hsign : signSpan (sign ++ (ds ++ t)) = (sign, ds ++ t) :=
      signSpan_sign_append hs (h.stops_isSign hne t)
    have hdigits : (digitSpan (ds ++ t)).1 ≠ [] := by
      rw [digitSpan_digits_append h]
      exact fun hnil => hne (List.append_eq_nil_iff.1 hnil).1
    rw [List.cons_append, List.append_assoc, exponentSpan, hsign, if_pos ⟨hc, hdigits⟩,
      digitSpan_digits_append h]
    exact ⟨(digitSpan t).1, by simp⟩

/-- The mark of an exponent is part of no mantissa. -/
theorem MaybeExponent.stops_or_nil (h : MaybeExponent e) (t : List Char) :
    e = [] ∨ Stops (fun c => c.isDigit = true ∨ c = '.') (e ++ t) := by
  cases h with
  | none => exact .inl rfl
  | exponent hc =>
    refine .inr ?_
    rintro _ ⟨⟩
    rcases hc with rfl | rfl <;> decide

end

/-! ## Numerals -/

section

variable {p q cs : List Char}

theorem floatSpan_eq (cs : List Char) : floatSpan cs =
    if (mantissaSpan (signSpan cs).2).1 = [] then ([], cs)
    else ((signSpan cs).1 ++ (mantissaSpan (signSpan cs).2).1 ++
        (exponentSpan (mantissaSpan (signSpan cs).2).2).1,
      (exponentSpan (mantissaSpan (signSpan cs).2).2).2) := rfl

/-- What is taken as a decimal number is one. -/
theorem isDecimal_floatSpan (hne : (floatSpan cs).1 ≠ []) : IsDecimal (floatSpan cs).1 := by
  rw [floatSpan_eq] at hne ⊢
  split at hne
  · exact absurd rfl hne
  · rename_i h
    rw [if_neg h]
    dsimp only
    rw [List.append_assoc]
    exact .mk (maybeSign_signSpan cs) (isMantissa_mantissaSpan h) (maybeExponent_exponentSpan _)

/-- A decimal number is part of what is taken where it stands. -/
theorem IsDecimal.prefix_floatSpan (h : IsDecimal p) (t : List Char) :
    p <+: (floatSpan (p ++ t)).1 := by
  obtain @⟨sign, m, e, hs, hm, he⟩ := h
  have hsign : signSpan (sign ++ (m ++ (e ++ t))) = (sign, m ++ (e ++ t)) :=
    signSpan_sign_append hs (hm.stops_isSign _)
  have hmantissa := hm.prefix_mantissaSpan (e ++ t)
  have hne : (mantissaSpan (m ++ (e ++ t))).1 ≠ [] := by
    obtain ⟨c, cs, rfl, -⟩ := hm.exists_cons
    exact fun hnil => absurd (List.prefix_nil.1 (hnil ▸ hmantissa)) (List.cons_ne_nil _ _)
  rw [List.append_assoc, List.append_assoc, floatSpan_eq, hsign, if_neg hne]
  dsimp only
  rw [List.append_assoc, List.prefix_append_right_inj]
  -- an exponent stops the mantissa before it, and without one the mantissa may be longer
  rcases he.stops_or_nil t with rfl | hstops
  · rw [List.append_nil]
    exact hmantissa.trans (List.prefix_append _ _)
  · rw [hm.mantissaSpan_append hstops, List.prefix_append_right_inj]
    exact he.prefix_exponentSpan t

/-- The numeral ahead. -/
def numeralSpan (cs : List Char) : List Char :=
  if Text.startsWith "Infinity".toList (signSpan cs).2 then (signSpan cs).1 ++ "Infinity".toList
  else (floatSpan cs).1

theorem numeralSpan_isPrefix (cs : List Char) : numeralSpan cs <+: cs := by
  rw [numeralSpan]
  split
  · rename_i h
    obtain ⟨rest, hrest⟩ := Text.startsWith_iff.1 h
    exact ⟨rest, by rw [List.append_assoc, hrest, signSpan_append]⟩
  · exact ⟨_, floatSpan_append cs⟩

theorem isNumeral_numeralSpan (hne : numeralSpan cs ≠ []) : IsNumeral (numeralSpan cs) := by
  rw [numeralSpan] at hne ⊢
  split at hne
  · rename_i h
    rw [if_pos h]
    exact .infinity (maybeSign_signSpan cs)
  · rename_i h
    rw [if_neg h]
    exact .decimal (isDecimal_floatSpan hne)

theorem signSpan_infinity {sign : List Char} (hs : MaybeSign sign) (t : List Char) :
    signSpan (sign ++ "Infinity".toList ++ t) = (sign, "Infinity".toList ++ t) := by
  rw [List.append_assoc]
  exact signSpan_sign_append hs (by rintro _ ⟨⟩; decide)

/-- No decimal number starts as an infinity does. -/
theorem IsDecimal.not_startsWith_infinity (h : IsDecimal p) (t : List Char) :
    ¬ Text.startsWith "Infinity".toList (signSpan (p ++ t)).2 = true := by
  obtain @⟨sign, m, e, hs, hm, he⟩ := h
  rw [List.append_assoc, List.append_assoc, signSpan_sign_append hs (hm.stops_isSign _),
    Text.startsWith_iff]
  obtain ⟨c, cs, rfl, hc⟩ := hm.exists_cons
  intro hinf
  obtain rfl : 'I' = c := (List.cons_prefix_cons.1 hinf).1
  rcases hc with hc | hc <;> revert hc <;> decide

/-- A numeral is part of what is taken where it stands. -/
theorem IsNumeral.prefix_numeralSpan (h : IsNumeral p) (t : List Char) :
    p <+: numeralSpan (p ++ t) := by
  rw [numeralSpan]
  cases h with
  | infinity hs =>
    rw [signSpan_infinity hs, if_pos (Text.startsWith_iff.2 (List.prefix_append _ _))]
  | decimal h =>
    rw [if_neg (h.not_startsWith_infinity t)]
    exact h.prefix_floatSpan t

theorem IsLongest.unique (hp : IsLongest p cs) (hq : IsLongest q cs) : p = q := by
  have hlength := Nat.le_antisymm (hq.longest p hp.ahead hp.numeral) (hp.longest q hq.ahead hq.numeral)
  exact (List.prefix_of_prefix_length_le hp.ahead hq.ahead hlength.le).eq_of_length hlength

/-- Where any numeral is ahead, the one taken is the longest. -/
theorem isLongest_numeralSpan (hq : q <+: cs) (h : IsNumeral q) : IsLongest (numeralSpan cs) cs := by
  have taken {q : List Char} (hq : q <+: cs) (h : IsNumeral q) : q <+: numeralSpan cs := by
    obtain ⟨t, rfl⟩ := hq
    exact h.prefix_numeralSpan t
  have hne : numeralSpan cs ≠ [] := fun hnil =>
    h.ne_nil (List.prefix_nil.1 (hnil ▸ taken hq h))
  exact ⟨numeralSpan_isPrefix cs, isNumeral_numeralSpan hne, fun _ hq h => (taken hq h).length_le⟩

theorem IsLongest.eq_numeralSpan (h : IsLongest p cs) : p = numeralSpan cs :=
  h.unique (isLongest_numeralSpan h.ahead h.numeral)

/-- The span of a text is its longest numeral, and it is empty only where there is none. -/
theorem isLongest_iff : IsLongest p cs ↔ p = numeralSpan cs ∧ p ≠ [] := by
  refine ⟨fun h => ⟨h.eq_numeralSpan, h.numeral.ne_nil⟩, ?_⟩
  rintro ⟨rfl, hne⟩
  exact isLongest_numeralSpan (numeralSpan_isPrefix cs) (isNumeral_numeralSpan hne)

/-- An exponent without digits is left behind, and so is what is not ASCII. -/
example : IsLongest "-1.".toList "-1.e+€".toList := isLongest_iff.2 (by decide)

/-- A numeral is taken as a whole. -/
theorem isNumeral_iff : IsNumeral p ↔ numeralSpan p = p ∧ p ≠ [] := by
  constructor
  · intro h
    have htaken := h.prefix_numeralSpan []
    rw [List.append_nil] at htaken
    have hlength := Nat.le_antisymm (numeralSpan_isPrefix p).length_le htaken.length_le
    exact ⟨(numeralSpan_isPrefix p).eq_of_length hlength, h.ne_nil⟩
  · rintro ⟨h, hne⟩
    rw [← h] at hne ⊢
    exact isNumeral_numeralSpan hne

instance : DecidablePred IsNumeral := fun _ => decidable_of_iff _ isNumeral_iff.symm

end

/-! ## The numbers of numerals -/

theorem takeSign_snd_of_sign {sign t : List Char} (hs : MaybeSign sign) (ht : Stops IsSign t) :
    (Decimal.takeSign (sign ++ t)).2 = t := by
  cases hs with
  | none =>
    rw [List.nil_append]
    unfold Decimal.takeSign
    split
    · exact absurd (.inr rfl) (ht '-' rfl)
    · exact absurd (.inl rfl) (ht '+' rfl)
    · rfl
  | sign h => rcases h with rfl | rfl <;> rfl

/-- The digits of an exponent are read. -/
theorem MaybeExponent.isSome_readExponent? {e : List Char} (h : MaybeExponent e) :
    (Decimal.readExponent? e).isSome = true := by
  cases h with
  | none => rfl
  | @exponent c sign ds hc hs h hne =>
    have hsign : (Decimal.takeSign (sign ++ ds)).2 = ds := by
      refine takeSign_snd_of_sign hs ?_
      have hstops := h.stops_isSign hne []
      rwa [List.append_nil] at hstops
    have hdigits : ¬ (ds.isEmpty || !ds.all Char.isDigit) = true := by
      simp [hne, List.all_eq_true.2 h]
    rw [Decimal.readExponent?, if_pos hc]
    dsimp only
    rw [hsign, if_neg hdigits]
    rfl

/-- The reader of decimal texts takes the spans of a mantissa. -/
theorem readParts?_eq (cs : List Char) : Decimal.readParts? cs =
    if (digitSpan cs).1.isEmpty && (fractionSpan (digitSpan cs).2).1.tail.isEmpty then none
    else (Decimal.readExponent? (fractionSpan (digitSpan cs).2).2).map fun e =>
      ⟨(digitSpan cs).1, (fractionSpan (digitSpan cs).2).1.tail, e⟩ := by
  unfold Decimal.readParts? digitSpan
  dsimp only
  split
  · rename_i more hmore
    rw [hmore]
    rfl
  · rename_i hne
    rw [fractionSpan_of_ne hne]
    rfl

/-- A mantissa is read, and what follows it as an exponent. -/
theorem isSome_readParts? {cs : List Char} (hne : (mantissaSpan cs).1 ≠ [])
    (he : (Decimal.readExponent? (mantissaSpan cs).2).isSome = true) :
    (Decimal.readParts? cs).isSome = true := by
  rw [mantissaSpan_eq] at hne he
  split at hne
  · exact absurd rfl hne
  rename_i h
  rw [if_neg h] at he
  rw [readParts?_eq, if_neg, Option.isSome_map]
  · exact he
  · rw [Bool.and_eq_true, List.isEmpty_iff, List.isEmpty_iff]
    rintro ⟨hwhole, htail⟩
    refine h ⟨hwhole, ?_⟩
    have hlength := congrArg List.length htail
    rw [List.length_tail, List.length_nil] at hlength
    omega

/-- A decimal number is read as a whole. -/
theorem IsDecimal.isSome_read? {p : List Char} (h : IsDecimal p) : (Decimal.read? p).isSome = true := by
  obtain @⟨sign, m, e, hs, hm, he⟩ := h
  have hmantissa : mantissaSpan (m ++ e) = (m, e) := by
    refine hm.mantissaSpan_append ?_
    rcases he.stops_or_nil [] with rfl | hstops
    · rintro _ ⟨⟩
    · rwa [List.append_nil] at hstops
  rw [Decimal.read?_eq, Option.isSome_map, takeSign_snd_of_sign hs (hm.stops_isSign e)]
  refine isSome_readParts? ?_ ?_
  · rw [hmantissa]
    obtain ⟨c, cs, rfl, -⟩ := hm.exists_cons
    exact List.cons_ne_nil c cs
  · rw [hmantissa]
    exact he.isSome_readExponent?

/-- The characters of a decimal number. -/
theorem IsDecimal.all_isDecimalChar {p : List Char} (h : IsDecimal p) :
    p.all isDecimalChar = true := by
  have hsign {sign : List Char} (hs : MaybeSign sign) : sign.all isDecimalChar = true := by
    cases hs with
    | none => rfl
    | sign h => rcases h with rfl | rfl <;> rfl
  have hdigits {ds : List Char} (h : IsDigits ds) : ds.all isDecimalChar = true :=
    List.all_eq_true.2 fun c hc => by simp [isDecimalChar, h c hc]
  have hpoint : isDecimalChar '.' = true := rfl
  obtain ⟨hs, hm, he⟩ := h
  rw [List.all_append, List.all_append, Bool.and_eq_true, Bool.and_eq_true]
  refine ⟨hsign hs, ?_, ?_⟩
  · cases hm with
    | whole h => exact hdigits h
    | pointed h _ hf => simp [hdigits h, hpoint, hdigits hf]
    | fraction hf => simp [hpoint, hdigits hf]
  · cases he with
    | none => rfl
    | exponent hc hs h => rcases hc with rfl | rfl <;> simp [isDecimalChar, hsign hs, hdigits h]

/-- A decimal number as a whole text has the number that the reader gives. -/
theorem IsDecimal.ofDecimal_eq {p : List Char} (h : IsDecimal p) :
    ofDecimal p = (Decimal.read? p).getD nan := by
  have hall := h.all_isDecimalChar
  have hne {q : List Char} (hq : q.all isDecimalChar = false) : p ≠ q := by
    rintro rfl
    rw [hall] at hq
    cases hq
  rw [ofDecimal, if_neg (not_or.2 ⟨hne (by decide), hne (by decide)⟩), if_neg (hne (by decide)),
    if_pos hall]

theorem IsDecimal.read?_eq {p : List Char} (h : IsDecimal p) :
    Decimal.read? p = some (ofDecimal p) := by
  obtain ⟨x, hx⟩ := Option.isSome_iff_exists.1 h.isSome_read?
  rw [h.ofDecimal_eq, hx]
  rfl

theorem ofDecimal_infinity {sign : List Char} (hs : MaybeSign sign) :
    ofDecimal (sign ++ "Infinity".toList) = if sign = ['-'] then -infinity else infinity := by
  cases hs with
  | none => rfl
  | sign h => rcases h with rfl | rfl <;> rfl

/-- The number of a numeral is a number. -/
theorem IsNumeral.isNaN_ofDecimal {p : List Char} (h : IsNumeral p) : (ofDecimal p).isNaN = false := by
  cases h with
  | infinity hs =>
    rw [ofDecimal_infinity hs]
    split <;> rfl
  | decimal h => exact Decimal.isNaN_of_read? h.read?_eq

/-! ## The number at the start of a text -/

/-- The text from its first character that is no blank. -/
def unblanked (s : String) : List Char := s.toList.dropWhile Unicode.isWhitespace

variable {s : String} {p : List Char}

/-- A minus sign is taken where the text starts with one. -/
theorem signSpan_eq_minus_iff (cs : List Char) : (signSpan cs).1 = ['-'] ↔ cs.head? = some '-' := by
  unfold signSpan
  split
  · simp
  · simp
  · rename_i h
    cases cs <;> simp_all

theorem ofFloatPrefix_unblanked (s : String) : ofFloatPrefix s =
    if Text.startsWith "Infinity".toList (signSpan (unblanked s)).2 then
      if (unblanked s).head? = some '-' then -infinity else infinity
    else (Decimal.read? (floatSpan (unblanked s)).1).getD nan := rfl

/-- The number at the start of a text is the number of the numeral ahead. -/
theorem ofFloatPrefix_eq (s : String) : ofFloatPrefix s =
    if numeralSpan (unblanked s) = [] then nan else ofDecimal (numeralSpan (unblanked s)) := by
  rw [ofFloatPrefix_unblanked, numeralSpan]
  by_cases hinf : Text.startsWith "Infinity".toList (signSpan (unblanked s)).2 = true
  · have hne : (signSpan (unblanked s)).1 ++ "Infinity".toList ≠ [] := by simp
    simp only [if_pos hinf, if_neg hne, ofDecimal_infinity (maybeSign_signSpan _),
      signSpan_eq_minus_iff]
  · simp only [if_neg hinf]
    split
    · rename_i hnil
      rw [hnil]
      rfl
    · rename_i hne
      exact (isDecimal_floatSpan hne).ofDecimal_eq.symm

/-- The number at the start of a text is the number of its longest numeral. -/
theorem ofFloatPrefix_of_isLongest (h : IsLongest p (unblanked s)) : ofFloatPrefix s = ofDecimal p := by
  rw [ofFloatPrefix_eq, ← h.eq_numeralSpan, if_neg h.numeral.ne_nil]

/-- It is not a number where no numeral is ahead. -/
theorem isNaN_ofFloatPrefix_iff :
    (ofFloatPrefix s).isNaN = true ↔ ∀ p, p ≠ [] → p <+: unblanked s → ¬ IsNumeral p := by
  constructor
  · intro hnan p _ hp h
    have hlongest := isLongest_numeralSpan hp h
    rw [ofFloatPrefix_of_isLongest hlongest, hlongest.numeral.isNaN_ofDecimal] at hnan
    cases hnan
  · intro h
    have hnil : numeralSpan (unblanked s) = [] := by
      by_contra hne
      exact h _ hne (numeralSpan_isPrefix _) (isNumeral_numeralSpan hne)
    rw [ofFloatPrefix_eq, if_pos hnil]
    rfl

end DataBinding.Numeral
