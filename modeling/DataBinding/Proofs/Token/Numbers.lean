import DataBinding.Proofs.Token.Scans

/-!
# The characters of numbers

A number is made of letters, digits, points and signs, and it does not end in a sign: no reader of
numbers takes a sign that no digit follows.

Results:

* `Token.numberValue?_concat_sign`: a text that ends in a sign is no number.
* `Token.forall_spanNumber`: the characters of a number.
-/

namespace DataBinding

/-- The signs of numbers. -/
def IsSign (c : Char) : Prop := c = '+' ∨ c = '-'

instance (c : Char) : Decidable (IsSign c) := inferInstanceAs (Decidable (c = '+' ∨ c = '-'))

/-! ## Decimal texts -/

namespace Decimal

variable {s : Char}

theorem isDigit_of_isSign (hs : IsSign s) : s.isDigit = false := by
  rcases hs with rfl | rfl <;> rfl

/-- A sign is taken or nothing is. -/
theorem takeSign_snd (cs : List Char) : (takeSign cs).2 = cs ∨ ∃ c, cs = c :: (takeSign cs).2 := by
  unfold takeSign
  split
  · exact .inr ⟨_, rfl⟩
  · exact .inr ⟨_, rfl⟩
  · exact .inl rfl

/-- After a sign at the start, the text still ends in the last one, if there is more than one
    character. -/
theorem takeSign_concat (cs : List Char) :
    (takeSign (cs ++ [s])).2 = [] ∨ ∃ ds, (takeSign (cs ++ [s])).2 = ds ++ [s] := by
  rcases takeSign_snd (cs ++ [s]) with h | ⟨c, h⟩
  · exact .inr ⟨cs, h⟩
  · cases cs with
    | nil => exact .inl (List.cons.inj h).2.symm
    | cons d cs => exact .inr ⟨cs, (List.cons.inj h).2.symm⟩

theorem readExponent?_concat_sign (hs : IsSign s) (cs : List Char) :
    readExponent? (cs ++ [s]) = none := by
  cases cs with
  | nil => rcases hs with rfl | rfl <;> rfl
  | cons c cs =>
    have hdigits : ((takeSign (cs ++ [s])).2.isEmpty ||
        !(takeSign (cs ++ [s])).2.all Char.isDigit) = true := by
      rcases takeSign_concat (s := s) cs with h | ⟨ds, h⟩
      · rw [h]
        rfl
      · simp [h, isDigit_of_isSign hs]
    rw [List.cons_append, readExponent?]
    split
    · dsimp only
      rw [if_pos hdigits]
    · rfl

/-- Digits before a text that ends in a sign leave a text that ends in it. -/
theorem dropWhile_concat_sign (hs : IsSign s) (cs : List Char) :
    (cs ++ [s]).dropWhile Char.isDigit = cs.dropWhile Char.isDigit ++ [s] := by
  induction cs with
  | nil => simp [isDigit_of_isSign hs]
  | cons d cs ih =>
    rw [List.cons_append]
    by_cases hd : d.isDigit = true
    · rw [List.dropWhile_cons_of_pos hd, List.dropWhile_cons_of_pos hd, ih]
    · rw [List.dropWhile_cons_of_neg hd, List.dropWhile_cons_of_neg hd, List.cons_append]

/-- What ends a text ends what is left behind another character in front. -/
theorem exists_eq_concat_of_cons {c : Char} {cs ds : List Char} (h : cs ++ [s] = c :: ds)
    (hc : c ≠ s) : ∃ es, ds = es ++ [s] := by
  cases cs with
  | nil => exact absurd (List.cons.inj h).1.symm hc
  | cons e es => exact ⟨es, (List.cons.inj h).2.symm⟩

theorem readParts?_concat_sign (hs : IsSign s) (cs : List Char) : readParts? (cs ++ [s]) = none := by
  unfold readParts?
  dsimp only
  rw [dropWhile_concat_sign hs]
  split
  · rename_i more hmore
    obtain ⟨ds, rfl⟩ := exists_eq_concat_of_cons hmore (by rcases hs with rfl | rfl <;> decide)
    rw [dropWhile_concat_sign hs, readExponent?_concat_sign hs]
    split <;> rfl
  · rw [readExponent?_concat_sign hs]
    split <;> rfl

theorem read?_concat_sign (hs : IsSign s) (cs : List Char) : read? (cs ++ [s]) = none := by
  unfold read?
  dsimp only
  rcases takeSign_concat (s := s) cs with h | ⟨ds, h⟩
  · rw [h]
    rfl
  · rw [h, readParts?_concat_sign hs]
    rfl

/-- A text with a character that is no digit of the base has no value in it. -/
theorem readBase?_eq_none {base : Nat} {ds : List Char} {c : Char} (hc : c ∈ ds)
    (h : digitValue? base c = none) : readBase? base ds = none := by
  have fold : ∀ (ds : List Char) (acc : Float), c ∈ ds → ds.foldlM (fun acc c =>
      (digitValue? base c).map fun d => acc * Float.ofNat base + Float.ofNat d) acc = none := by
    intro ds
    induction ds with
    | nil => intro acc hm; cases hm
    | cons d ds ih =>
      intro acc hm
      rw [List.foldlM_cons]
      rcases List.mem_cons.1 hm with rfl | hm
      · rw [h]
        rfl
      · cases digitValue? base d with
        | none => rfl
        | some n => exact ih _ hm
  unfold readBase?
  split
  · rfl
  · exact fold ds _ hc

end Decimal

namespace Token

/-- A text that ends in a sign is no number. -/
theorem numberValue?_concat_sign {s : Char} (hs : IsSign s) (cs : List Char) :
    numberValue? (cs ++ [s]) = none := by
  have hdecimal : numberValue?.decimal? (cs ++ [s]) = none := by
    unfold numberValue?.decimal?
    split
    · exact Decimal.read?_concat_sign hs cs
    · rfl
  -- a digit or a mark in front is not the sign at the end
  have behind : ∀ {c : Char} {cs ds : List Char}, cs ++ [s] = c :: ds → ¬ IsSign c →
      ∃ es, ds = es ++ [s] := fun h hc => Decimal.exists_eq_concat_of_cons h fun he => hc (he ▸ hs)
  have hbase : ∀ {c : Char} {es : List Char}, cs ++ [s] = '0' :: c :: es → ¬ IsSign c →
      Decimal.readBase? 16 es = none := by
    intro c es hcs hc
    obtain ⟨ds, hds⟩ := behind hcs (by decide)
    obtain ⟨ds, rfl⟩ := behind hds.symm hc
    exact Decimal.readBase?_eq_none (c := s) (by simp) (by rcases hs with rfl | rfl <;> rfl)
  unfold numberValue?
  split
  · exact hbase ‹_› (by decide)
  · exact hbase ‹_› (by decide)
  · rename_i d ds _ _ hcs
    obtain ⟨es, hds⟩ := behind hcs (by decide)
    split
    · rename_i hoct
      have hs' := List.all_eq_true.1 hoct s (by simp [hds])
      rcases hs with rfl | rfl <;> cases hs'
    · exact hcs ▸ hdecimal
  · exact hdecimal

/-- A number goes on with a sign, a point or a letter or digit. -/
theorem NumberState.isPart_of_next? {st st' : NumberState} {c : Char} (h : st.next? c = some st') :
    IsSign c ∨ c = '.' ∨ isIdentifierPart c = true := by
  have letter : ∀ {d : Char}, isIdentifierPart d = true → c = d → isIdentifierPart c = true :=
    fun hd hc => hc ▸ hd
  unfold next? at h
  split at h
  · rename_i hx
    exact .inr (.inr (hx.elim (letter (by decide +kernel)) (letter (by decide +kernel))))
  split at h
  · rename_i he
    exact .inr (.inr (he.1.elim (letter (by decide +kernel)) (letter (by decide +kernel))))
  split at h
  · exact .inl ‹_›
  split at h
  · exact .inr (.inl ‹_›)
  split at h
  · rename_i ha
    exact .inr (.inr (by simp [isIdentifierPart, ha]))
  · cases h

/-- The characters of a number. -/
theorem forall_spanNumber (st : NumberState) (cs : List Char) :
    ∀ c ∈ (spanNumber st cs).1, IsSign c ∨ c = '.' ∨ isIdentifierPart c = true := by
  induction cs generalizing st with
  | nil => simp [spanNumber]
  | cons d cs ih =>
    cases hnext : st.next? d with
    | none => simp [spanNumber, hnext]
    | some st' =>
      have hspan : (spanNumber st (d :: cs)).1 = d :: (spanNumber st' cs).1 := by
        simp [spanNumber, hnext]
      rw [hspan, List.forall_mem_cons]
      exact ⟨NumberState.isPart_of_next? hnext, ih st'⟩

end Token

end DataBinding
