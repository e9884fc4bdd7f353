import DataBinding.Proofs.Outcome
import DataBinding.Token.Scan

/-!
# Where a leaf of a text ends

The token of a literal or of a name depends on its own characters and on the one behind them: strings
end with their quote, all others end before a blank, before most marks, and but for some numbers before
a point. So such a token can be read wherever its characters stand.

Results:

* `Token.readString_local`, `Token.readNumber_local`, `Token.readRegex_local`, `Token.readWord_local`:
  the characters that a reader takes, and that it takes them elsewhere too.
* `Token.scanKind_local`: the same of every literal and name.
-/

namespace DataBinding

/-- Every literal and name ends before these characters. -/
def isStop (c : Char) : Bool := [' ', '(', ')', '[', ']', '\x7d', ',', ':'].contains c

/-- A number with one of these characters ends before a point. -/
def isMark (c : Char) : Bool := ['.', 'e', 'E', 'x', 'X'].contains c

/-- A number with this text ends before a point. -/
def isMarked (raw : List Char) : Bool := raw.any isMark

namespace TokenKind

/-- Is the token a literal or a name? -/
def isLeaf : TokenKind → Bool
  | string _ | number _ | name _ | atom _ | regex .. => true
  | _ => false

/-- A token with this text ends before the characters `r`. -/
def Ends (kind : TokenKind) (raw r : List Char) : Prop :=
  ∀ c, r.head? = some c →
    isStop c = true ∨ c = '.' ∧ ∀ x, kind = .number x → isMarked raw = true

/-- What a token ends before ends a word. -/
theorem Ends.head {kind : TokenKind} {raw r : List Char} (h : kind.Ends raw r) :
    ∀ c, r.head? = some c → isStop c = true ∨ c = '.' :=
  fun c hc => (h c hc).imp_right And.left

theorem Ends.nil {kind : TokenKind} {raw : List Char} : kind.Ends raw [] := by
  intro c hc
  cases hc

theorem Ends.of_isStop {kind : TokenKind} {raw r : List Char} {c : Char} (h : isStop c = true) :
    kind.Ends raw (c :: r) := by
  intro c' hc
  cases hc
  exact .inl h

end TokenKind

/-- A stop is one of the characters that it may be. -/
theorem forall_isStop {P : Char → Prop} (h : ∀ c ∈ [' ', '(', ')', '[', ']', '\x7d', ',', ':'], P c)
    {c : Char} (hc : isStop c = true) : P c := h c (List.contains_iff_mem.1 hc)

namespace Token

/-! ## Numbers -/

namespace NumberState

/-- The number ends before a point. -/
def isClosed (st : NumberState) : Bool := st.hasDot || st.hasX || st.hasE

theorem next?_of_isStop (st : NumberState) {c : Char} (h : isStop c = true) : st.next? c = none := by
  refine forall_isStop (P := fun c => st.next? c = none) ?_ h
  simp only [List.forall_mem_cons]
  exact ⟨rfl, rfl, rfl, rfl, rfl, rfl, rfl, rfl, by simp⟩

theorem next?_dot {st : NumberState} (h : st.isClosed = true) : st.next? '.' = none := by
  have hd : st.hasDot = true ∨ st.hasX = true ∨ st.hasE = true := by
    simpa [isClosed, or_assoc] using h
  show (if st.hasDot = true ∨ st.hasX = true ∨ st.hasE = true then none else _) = none
  rw [if_pos hd]

/-- Once a number ends before a point it does so as it goes on, and its marks make it so. -/
theorem isClosed_of_next? {st st' : NumberState} {c : Char} (h : st.next? c = some st')
    (hc : st.isClosed = true ∨ isMark c = true) : st'.isClosed = true := by
  unfold next? at h
  split at h
  · split at h
    · cases h
    · cases h
      simp [isClosed]
  split at h
  · split at h
    · cases h
    · cases h
      simp [isClosed]
  rename_i hx he
  -- an exponent mark only goes on as a letter behind an `x`
  have stays : st.isClosed = true ∨ c = '.' := by
    rcases hc with hc | hc
    · exact .inl hc
    · simp only [isMark, List.contains_iff_mem, List.mem_cons, List.not_mem_nil, or_false] at hc
      rcases hc with rfl | rfl | rfl | rfl | rfl
      · exact .inr rfl
      · exact .inl (by simpa [isClosed] using Or.inl (Or.inr (by simpa using he)))
      · exact .inl (by simpa [isClosed] using Or.inl (Or.inr (by simpa using he)))
      · exact absurd (.inl rfl) hx
      · exact absurd (.inr rfl) hx
  split at h
  · rename_i hs
    split at h
    · cases h
      rcases stays with hst | rfl
      · exact hst
      · simp at hs
    · cases h
  split at h
  · split at h
    · cases h
    · cases h
      simp [isClosed]
  · rename_i hdot
    split at h
    · cases h
      exact stays.resolve_right hdot
    · cases h

end NumberState

theorem spanNumber_stop {st : NumberState} {raw r : List Char}
    (hr : ∀ c, r.head? = some c →
      isStop c = true ∨ c = '.' ∧ (st.isClosed = true ∨ isMarked raw = true))
    (hraw : raw = []) : spanNumber st r = ([], r) := by
  subst hraw
  cases r with
  | nil => rfl
  | cons c r =>
    have hnext : st.next? c = none := by
      rcases hr c rfl with hc | ⟨rfl, hc⟩
      · exact st.next?_of_isStop hc
      · exact NumberState.next?_dot (hc.resolve_right (by simp [isMarked]))
    simp [spanNumber, hnext]

/-- The text of a number is read again wherever it stands. -/
theorem spanNumber_local {st : NumberState} {cs r : List Char}
    (hr : ∀ c, r.head? = some c →
      isStop c = true ∨ c = '.' ∧ (st.isClosed = true ∨ isMarked (spanNumber st cs).1 = true)) :
    spanNumber st ((spanNumber st cs).1 ++ r) = ((spanNumber st cs).1, r) := by
  induction cs generalizing st with
  | nil => exact spanNumber_stop hr rfl
  | cons c cs ih =>
    cases hnext : st.next? c with
    | none =>
      have hs : spanNumber st (c :: cs) = ([], c :: cs) := by simp [spanNumber, hnext]
      rw [hs] at hr ⊢
      exact spanNumber_stop hr rfl
    | some st' =>
      have hs : (spanNumber st (c :: cs)).1 = c :: (spanNumber st' cs).1 := by
        simp [spanNumber, hnext]
      rw [hs] at hr ⊢
      have hr' : ∀ d, r.head? = some d →
          isStop d = true ∨ d = '.' ∧ (st'.isClosed = true ∨ isMarked (spanNumber st' cs).1 = true) := by
        intro d hd
        refine (hr d hd).imp_right ?_
        rintro ⟨he, hc⟩
        refine ⟨he, ?_⟩
        rcases hc with hc | hc
        · exact .inl (NumberState.isClosed_of_next? hnext (.inl hc))
        · rw [isMarked, List.any_cons, Bool.or_eq_true] at hc
          exact hc.imp_left fun hm => NumberState.isClosed_of_next? hnext (.inr hm)
      rw [List.cons_append, spanNumber, hnext]
      simp only [ih hr']

/-- A number takes characters that make the same number elsewhere. -/
theorem readNumber_local {position : Nat} {cs rest : List Char} {kind : TokenKind}
    (h : readNumber position cs = .ok (kind, rest)) : ∃ raw, cs = raw ++ rest ∧
      ∀ position' r, kind.Ends raw r → readNumber position' (raw ++ r) = .ok (kind, r) := by
  have happ := spanNumber_append .start cs
  unfold readNumber at h
  simp only at h
  split at h
  · rename_i x hx
    obtain ⟨rfl, rfl⟩ := Prod.mk.inj (Except.ok.inj h)
    refine ⟨(spanNumber .start cs).1, happ.symm, fun position' r hr => ?_⟩
    have hspan : spanNumber .start ((spanNumber .start cs).1 ++ r) = ((spanNumber .start cs).1, r) :=
      spanNumber_local fun c hc => (hr c hc).imp_right fun ⟨he, hm⟩ => ⟨he, .inr (hm x rfl)⟩
    rw [readNumber, hspan]
    simp [hx]
  · cases h

/-! ## Strings -/

theorem readHex_local {marker : Char} {position count n : Nat} {digits cs rest : List Char}
    (h : readHex marker position count digits cs = .ok (n, rest)) : ∃ used, cs = used ++ rest ∧
      ∀ position' r, readHex marker position' count digits (used ++ r) = .ok (n, r) := by
  induction count generalizing digits cs with
  | zero =>
    cases h
    exact ⟨[], rfl, fun _ _ => rfl⟩
  | succ count ih =>
    cases cs with
    | nil => cases h
    | cons c cs =>
      rw [readHex] at h
      split at h
      · rename_i hc
        obtain ⟨used, rfl, hu⟩ := ih h
        refine ⟨c :: used, rfl, fun position' r => ?_⟩
        rw [List.cons_append, readHex, if_pos hc]
        exact hu position' r
      · cases h

/-- A unit that stands alone is no high unit, and it does so anywhere. -/
theorem charOfUnit_local {position n : Nat} {cs rest : List Char} {c : Char}
    (h : charOfUnit position n cs = .ok (c, rest)) : rest = cs ∧ Json.isHighUnit n = false ∧
      ∀ position' r, charOfUnit position' n r = .ok (c, r) := by
  unfold charOfUnit at h
  split at h
  · cases h
  · rename_i hn
    cases h
    rw [Bool.or_eq_true, not_or] at hn
    refine ⟨rfl, by simpa using hn.1, fun position' r => ?_⟩
    rw [charOfUnit, if_neg]
    simpa using hn

/-- After its digits a unit that is no high one does not depend on what follows. -/
theorem readUnicodeEscape_of_readHex {position high : Nat} {cs rest : List Char} {c : Char}
    (h : readHex 'u' position 4 [] cs = .ok (high, rest)) (hh : Json.isHighUnit high = false)
    (hc : charOfUnit position high rest = .ok (c, rest)) :
    readUnicodeEscape position cs = .ok (c, rest) := by
  rw [readUnicodeEscape, h]
  simp only [bind, Except.bind]
  split
  · rw [if_neg (by simp [hh])]
    exact hc
  · exact hc

theorem readUnicodeEscape_local {position : Nat} {cs rest : List Char} {c : Char}
    (h : readUnicodeEscape position cs = .ok (c, rest)) : ∃ used, cs = used ++ rest ∧
      ∀ position' r, readUnicodeEscape position' (used ++ r) = .ok (c, r) := by
  obtain ⟨⟨high, rest₁⟩, hhigh, hunit⟩ := bind_eq_ok_iff.1 h
  obtain ⟨used, hused, hu⟩ := readHex_local hhigh
  -- a unit that needs no other one
  have single : charOfUnit position high rest₁ = .ok (c, rest) → ∃ used', cs = used' ++ rest ∧
      ∀ position' r, readUnicodeEscape position' (used' ++ r) = .ok (c, r) := by
    intro hc
    obtain ⟨rfl, hh, hlocal⟩ := charOfUnit_local hc
    exact ⟨used, hused, fun position' r =>
      readUnicodeEscape_of_readHex (hu position' r) hh (hlocal position' r)⟩
  dsimp only at hunit
  split at hunit
  · rename_i more
    split at hunit
    · rename_i hh
      obtain ⟨⟨low, rest₂⟩, hlow, hpair⟩ := bind_eq_ok_iff.1 hunit
      obtain ⟨used₂, rfl, hu₂⟩ := readHex_local hlow
      dsimp only at hpair
      split at hpair
      · rename_i hl
        obtain ⟨rfl, rfl⟩ := Prod.mk.inj (Except.ok.inj hpair)
        refine ⟨used ++ '\\' :: 'u' :: used₂, by simp [hused], fun position' r => ?_⟩
        rw [readUnicodeEscape, List.append_assoc, hu]
        simp only [bind, Except.bind, List.cons_append, if_pos hh, hu₂, if_pos hl, pure, Except.pure]
      · have hhigh' := (charOfUnit_local hpair).2.1
        rw [hh] at hhigh'
        cases hhigh'
    · exact single hunit
  · exact single hunit

/-- A run of limited length that ends before a character ends there whatever comes next. -/
theorem takeWhile_take_local {α : Type} {p : α → Bool} {u : α} {ds us : List α} {limit : Nat}
    (h : ((ds ++ u :: us).take limit).takeWhile p = ds) (r : List α) :
    ((ds ++ u :: r).take limit).takeWhile p = ds := by
  induction ds generalizing limit with
  | nil =>
    cases limit with
    | zero => rfl
    | succ limit =>
      rw [List.nil_append, List.take_succ_cons] at h ⊢
      by_cases hu : p u = true
      · rw [List.takeWhile_cons_of_pos hu] at h
        cases h
      · rw [List.takeWhile_cons_of_neg hu]
  | cons d ds ih =>
    cases limit with
    | zero => cases h
    | succ limit =>
      rw [List.cons_append, List.take_succ_cons] at h ⊢
      by_cases hd : p d = true
      · rw [List.takeWhile_cons_of_pos hd] at h ⊢
        rw [ih (List.cons.inj h).2]
      · rw [List.takeWhile_cons_of_neg hd] at h
        cases h

/-- The digits of an octal escape end at their limit or before another character. -/
theorem octalRun_local {c u : Char} {cs more : List Char} (hc : isOctalDigit c = true)
    (h : (c :: cs).drop (octalRun (c :: cs)).length = u :: more) :
    ∃ ds, c :: cs = c :: ds ++ u :: more ∧ octalRun (c :: cs) = c :: ds ∧
      ∀ r, octalRun (c :: ds ++ u :: r) = c :: ds := by
  obtain ⟨limit, hlimit⟩ : ∃ limit, ∀ r, octalRun (c :: r) =
      c :: (r.take limit).takeWhile isOctalDigit := by
    by_cases h3 : c ≤ '3'
    · refine ⟨2, fun r => ?_⟩
      simp [octalRun, h3, List.takeWhile_cons_of_pos hc]
    · refine ⟨1, fun r => ?_⟩
      simp [octalRun, h3, List.takeWhile_cons_of_pos hc]
  obtain ⟨tail, htail⟩ : (cs.take limit).takeWhile isOctalDigit <+: cs :=
    (List.takeWhile_prefix _).trans (List.take_prefix _ _)
  generalize hds : (cs.take limit).takeWhile isOctalDigit = ds at htail
  have hrun : octalRun (c :: cs) = c :: ds := by rw [hlimit, hds]
  rw [hrun, List.length_cons, List.drop_succ_cons, ← htail, List.drop_left] at h
  subst h
  refine ⟨ds, by rw [← htail, List.cons_append], hrun, fun r => ?_⟩
  rw [List.cons_append, hlimit, takeWhile_take_local (htail ▸ hds)]

/-- The escape of a backslash and octal digits. -/
theorem readEscape_octal_local {position : Nat} {c u : Char} {rest out more : List Char}
    (hc : isOctalDigit c = true) (h : readEscape position (c :: rest) = .ok (out, u :: more)) :
    ∃ es, c :: rest = es ++ u :: more ∧
      ∀ position' r, readEscape position' (es ++ u :: r) = .ok (out, u :: r) := by
  unfold readEscape at h
  dsimp only at h
  rw [if_pos hc] at h
  obtain ⟨hout, hdrop⟩ := Prod.mk.inj (Except.ok.inj h)
  obtain ⟨ds, hds, hrun, hlocal⟩ := octalRun_local hc hdrop
  refine ⟨c :: ds, hds, fun position' r => ?_⟩
  have hr := hlocal r
  rw [List.cons_append] at hr ⊢
  unfold readEscape
  simp only [if_pos hc, hr, ← hout, hrun]
  rw [List.length_cons, List.drop_succ_cons, List.drop_left]

/-- A line break after a backslash, which may have a second character. -/
theorem readEscape_return_local {position : Nat} {u : Char} {rest out more : List Char}
    (h : readEscape position ('\r' :: rest) = .ok (out, u :: more)) :
    ∃ es, '\r' :: rest = es ++ u :: more ∧
      ∀ position' r, readEscape position' (es ++ u :: r) = .ok (out, u :: r) := by
  cases rest with
  | nil => cases h
  | cons d rest =>
    by_cases hd : d = '\n'
    · subst hd
      cases h
      exact ⟨['\r', '\n'], rfl, fun _ _ => rfl⟩
    · have hone : ∀ position' r, readEscape position' ('\r' :: d :: r) = .ok ([], d :: r) := by
        intro position' r
        have hletter : letterEscape? '\r' = none := rfl
        simp +decide only [readEscape, hletter, if_false, if_true]
        split
        · rename_i he
          exact absurd (List.cons.inj he).1 hd
        · rfl
      cases (hone position rest).symm.trans h
      exact ⟨['\r'], rfl, hone⟩

/-- An escape before another character takes characters that are the same escape elsewhere. -/
theorem readEscape_local {position : Nat} {cs out more : List Char} {u : Char}
    (h : readEscape position cs = .ok (out, u :: more)) : ∃ es, cs = es ++ u :: more ∧
      ∀ position' r, readEscape position' (es ++ u :: r) = .ok (out, u :: r) := by
  cases cs with
  | nil => cases h
  | cons c rest =>
    by_cases hoct : isOctalDigit c = true
    · exact readEscape_octal_local hoct h
    by_cases hr : c = '\r'
    · subst hr
      exact readEscape_return_local h
    -- the escape is the one character `c`, whatever comes behind it
    have alone : ∀ x, (∀ position' r, readEscape position' (c :: r) = .ok (x, r)) →
        ∃ es, c :: rest = es ++ u :: more ∧
          ∀ position' r, readEscape position' (es ++ u :: r) = .ok (out, u :: r) := by
      intro x hx
      obtain ⟨rfl, rfl⟩ := Prod.mk.inj (Except.ok.inj ((hx position rest).symm.trans h))
      exact ⟨[c], rfl, fun position' r => hx position' (u :: r)⟩
    cases hletter : letterEscape? c with
    | some d => exact alone [d] fun _ _ => by simp only [readEscape, if_neg hoct, hletter]
    | none =>
      by_cases hx : c = 'x'
      · simp only [readEscape, if_neg hoct, hletter, if_pos hx] at h
        obtain ⟨⟨n, rest₁⟩, hhex, he⟩ := bind_eq_ok_iff.1 h
        obtain ⟨used, rfl, hu⟩ := readHex_local hhex
        obtain ⟨rfl, rfl⟩ := Prod.mk.inj (Except.ok.inj he)
        refine ⟨c :: used, rfl, fun position' r => ?_⟩
        simp only [List.cons_append, readEscape, if_neg hoct, hletter, if_pos hx, hu]
        rfl
      by_cases hu : c = 'u'
      · simp only [readEscape, if_neg hoct, hletter, if_neg hx, if_pos hu] at h
        obtain ⟨⟨d, rest₁⟩, huni, he⟩ := bind_eq_ok_iff.1 h
        obtain ⟨used, rfl, hlocal⟩ := readUnicodeEscape_local huni
        obtain ⟨rfl, rfl⟩ := Prod.mk.inj (Except.ok.inj he)
        refine ⟨c :: used, rfl, fun position' r => ?_⟩
        simp only [List.cons_append, readEscape, if_neg hoct, hletter, if_neg hx, if_pos hu, hlocal]
        rfl
      by_cases hn : c = '\n'
      · exact alone [] fun _ _ => by
          simp only [readEscape, if_neg hoct, hletter, if_neg hx, if_neg hu, if_pos hn]
      · exact alone [c] fun _ _ => by
          simp only [readEscape, if_neg hoct, hletter, if_neg hx, if_neg hu, if_neg hn, if_neg hr]

/-- The text of a string and its closing quote are read again wherever they stand. -/
theorem readString_local {quote : Char} {start position : Nat} {cs text rest : List Char}
    (h : readString quote start position cs = .ok (text, rest)) :
    ∃ c used, cs = c :: used ++ rest ∧ ∀ start' position' r,
      readString quote start' position' (c :: used ++ r) = .ok (text, r) := by
  fun_induction readString quote start position cs generalizing text rest with
  | case1 => cases h
  | case2 _ more =>
    obtain ⟨rfl, rfl⟩ := Prod.mk.inj (Except.ok.inj h)
    refine ⟨quote, [], rfl, fun _ _ r => ?_⟩
    rw [List.cons_append, readString, if_pos rfl, List.nil_append]
  | case3 => cases h
  | case4 => cases h
  | case5 position' more out rest' he hq hline ih =>
    obtain ⟨⟨text', r'⟩, htext, heq⟩ := bind_eq_ok_iff.1 h
    obtain ⟨rfl, rfl⟩ := Prod.mk.inj (Except.ok.inj heq)
    obtain ⟨u, used, rfl, hlocal⟩ := ih htext
    obtain ⟨es, rfl, hes⟩ := readEscape_local he
    refine ⟨'\\', es ++ u :: used, by simp, fun start' position' r => ?_⟩
    have hes' := hes position' (used ++ r)
    rw [List.cons_append, List.append_assoc, List.cons_append, readString, if_neg hq, if_neg hline,
      if_pos rfl]
    split
    · rename_i e' he'
      rw [hes'] at he'
      cases he'
    · rename_i out' more' he'
      rw [hes'] at he'
      obtain ⟨rfl, rfl⟩ := Prod.mk.inj (Except.ok.inj he')
      have hl := fun p => hlocal start' p r
      simp only [List.cons_append] at hl
      simp only [hl, bind, Except.bind, pure, Except.pure]
  | case6 position' c more hq hline hb ih =>
    obtain ⟨⟨text', r'⟩, htext, heq⟩ := bind_eq_ok_iff.1 h
    obtain ⟨rfl, rfl⟩ := Prod.mk.inj (Except.ok.inj heq)
    obtain ⟨u, used, rfl, hlocal⟩ := ih htext
    refine ⟨c, u :: used, rfl, fun start' position' r => ?_⟩
    rw [List.cons_append, readString, if_neg hq, if_neg hline, if_neg hb, hlocal]
    simp only [bind, Except.bind, pure, Except.pure]

/-! ## Words -/

theorem isIdentifierPart_of_isStop {c : Char} (h : isStop c = true ∨ c = '.') :
    isIdentifierPart c = false := by
  rcases h with h | rfl
  · refine forall_isStop (P := fun c => isIdentifierPart c = false) ?_ h
    simp only [List.forall_mem_cons]
    exact ⟨rfl, rfl, rfl, rfl, rfl, rfl, rfl, rfl, by simp⟩
  · rfl

theorem span_identifierPart {w r : List Char} (hw : ∀ c ∈ w, isIdentifierPart c = true)
    (hr : ∀ c, r.head? = some c → isStop c = true ∨ c = '.') :
    (w ++ r).takeWhile isIdentifierPart = w ∧ (w ++ r).dropWhile isIdentifierPart = r := by
  rw [List.takeWhile_append_of_pos hw, List.dropWhile_append_of_pos hw]
  cases r with
  | nil => simp
  | cons c r =>
    have hc := isIdentifierPart_of_isStop (hr c rfl)
    simp [hc]

/-- Outside of member names the token of a word does not depend on its place. -/
theorem kindOfWord_local {position : Nat} {word : String} {kind : TokenKind}
    (h : kindOfWord false position word = .ok kind) (position' : Nat) :
    kindOfWord false position' word = .ok kind := by
  unfold kindOfWord at h ⊢
  rw [if_neg Bool.false_ne_true] at h ⊢
  cases ha : Atom.ofWord? word with
  | some a =>
    rw [ha] at h
    exact h
  | none =>
    rw [ha] at h
    cases ho : Operator.ofSpelling? word with
    | some op =>
      rw [ho] at h
      exact h
    | none =>
      rw [ho] at h
      dsimp only at h ⊢
      split at h
      · cases h
      rename_i hforbidden
      split at h
      · cases h
      rename_i hreserved
      rw [if_neg hforbidden, if_neg hreserved]
      exact h

/-- A word takes characters that make the same word elsewhere. -/
theorem readWord_local {position : Nat} {cs rest : List Char} {kind : TokenKind}
    (h : readWord false position cs = .ok (kind, rest)) : ∃ raw, cs = raw ++ rest ∧
      ∀ position' r, (∀ c, r.head? = some c → isStop c = true ∨ c = '.') →
        readWord false position' (raw ++ r) = .ok (kind, r) := by
  obtain ⟨kind', hk, he⟩ := bind_eq_ok_iff.1 h
  obtain ⟨rfl, rfl⟩ := Prod.mk.inj (Except.ok.inj he)
  refine ⟨cs.takeWhile isIdentifierPart, List.takeWhile_append_dropWhile.symm, fun position' r hr => ?_⟩
  obtain ⟨htake, hdrop⟩ := span_identifierPart (w := cs.takeWhile isIdentifierPart) (r := r)
    (fun c hc => List.all_eq_true.1 List.all_takeWhile c hc) hr
  rw [readWord, htake, hdrop, kindOfWord_local hk]
  rfl

/-! ## Regular expressions -/

theorem readPattern?_local {inClass : Bool} {cs p rest : List Char}
    (h : readPattern? inClass cs = some (p, rest)) : ∃ used, cs = used ++ rest ∧
      ∀ r, readPattern? inClass (used ++ r) = some (p, r) := by
  fun_induction readPattern? inClass cs generalizing p rest with
  | case1 => cases h
  | case2 => cases h
  | case3 inClass c more hc ih =>
    obtain ⟨⟨p', rest'⟩, h', he⟩ := Option.map_eq_some_iff.1 h
    obtain ⟨rfl, rfl⟩ := Prod.mk.inj he
    obtain ⟨used, rfl, hu⟩ := ih h'
    refine ⟨'\\' :: c :: used, rfl, fun r => ?_⟩
    rw [List.cons_append, List.cons_append, readPattern?, if_neg hc, hu]
    rfl
  | case4 => cases h
  | case5 inClass c more hfirst hc hs =>
    obtain ⟨rfl, rfl⟩ := Prod.mk.inj (Option.some.inj h)
    refine ⟨[c], rfl, fun r => ?_⟩
    rw [List.singleton_append, readPattern?, if_neg hc, if_pos hs]
    exact fun _ _ hb => absurd (.inr (.inr hb)) hc
  | case6 inClass c more hfirst hc hs ih =>
    obtain ⟨⟨p', rest'⟩, h', he⟩ := Option.map_eq_some_iff.1 h
    obtain ⟨rfl, rfl⟩ := Prod.mk.inj he
    obtain ⟨used, rfl, hu⟩ := ih h'
    refine ⟨c :: used, rfl, fun r => ?_⟩
    rw [List.cons_append, readPattern?, if_neg hc, if_neg hs, hu]
    · rfl
    · exact fun _ _ hb => absurd (.inr (.inr hb)) hc

/-- A regular expression takes characters that make the same one elsewhere. -/
theorem readRegex_local {position : Nat} {cs rest : List Char} {kind : TokenKind}
    (h : readRegex position cs = .ok (kind, rest)) : ∃ raw, cs = raw ++ rest ∧
      ∀ position' r, (∀ c, r.head? = some c → isStop c = true ∨ c = '.') →
        readRegex position' (raw ++ r) = .ok (kind, r) := by
  unfold readRegex at h
  split at h
  · cases h
  rename_i pattern more hp
  split at h
  · cases h
  rename_i hempty
  dsimp only at h
  split at h
  · rename_i hflags
    obtain ⟨rfl, rfl⟩ := Prod.mk.inj (Except.ok.inj h)
    obtain ⟨used, rfl, hu⟩ := readPattern?_local hp
    refine ⟨used ++ more.takeWhile isIdentifierPart, ?_, fun position' r hr => ?_⟩
    · rw [List.append_assoc, List.takeWhile_append_dropWhile]
    · obtain ⟨htake, hdrop⟩ := span_identifierPart (w := more.takeWhile isIdentifierPart) (r := r)
        (fun c hc => List.all_eq_true.1 List.all_takeWhile c hc) hr
      rw [List.append_assoc, readRegex, hu]
      simp only [htake, hdrop, if_neg hempty, if_pos hflags]
  · cases h

/-! ## Literals and names -/

theorem isIdentifierStart_of_isDigit {c : Char} (h : c.isDigit = true) :
    isIdentifierStart c = false := by
  have hc : 48 ≤ c.toNat ∧ c.toNat ≤ 57 := by
    simp only [Char.isDigit, Bool.and_eq_true, decide_eq_true_eq] at h
    exact ⟨h.1, h.2⟩
  have hd : ∀ n ∈ List.range' 48 10, isIdentifierStart (Char.ofNat n) = false := by decide +kernel
  have hn := hd c.toNat (by rw [List.mem_range'_1]; omega)
  rwa [Char.ofNat_toNat] at hn

/-- A name has no blank in it. -/
theorem isWhitespace_of_isIdentifierPart {c : Char} (h : isIdentifierPart c = true) :
    Unicode.isWhitespace c = false := by
  have hnone : ∀ r ∈ Unicode.whiteSpace.ranges, ∀ n ∈ List.range' r.1 (r.2 + 1 - r.1),
      isIdentifierPart (Char.ofNat n) = false := by decide +kernel
  cases hc : Unicode.isWhitespace c with
  | false => rfl
  | true =>
    obtain ⟨r, hr, hle, hge⟩ := Unicode.CodeSet.exists_range_of_contains hc
    have hn := hnone r hr c.toNat (by rw [List.mem_range'_1]; omega)
    rw [Char.ofNat_toNat, h] at hn
    cases hn

/-- A name starts with no digit, mark, quote or slash. -/
theorem isIdentifierStart_ne {c : Char} (h : isIdentifierStart c = true) : c.isDigit = false ∧
    c ≠ '.' ∧ ¬ (c = '\x22' ∨ c = '\x27') ∧ c ≠ '/' ∧ Punct.ofChar? c = none ∧
      isOperatorChar c = false := by
  have ne : ∀ d, isIdentifierStart d = false → c ≠ d := by
    rintro d hd rfl
    rw [hd] at h
    cases h
  refine ⟨Bool.eq_false_iff.2 fun hd => ne c (isIdentifierStart_of_isDigit hd) rfl, ne _ rfl, ?_,
    ne _ rfl, ?_, Bool.eq_false_iff.2 fun ho => ?_⟩
  · exact not_or.2 ⟨ne _ rfl, ne _ rfl⟩
  · refine List.find?_eq_none.2 fun p _ hp => ?_
    exact ne p.char (by cases p <;> rfl) (beq_iff_eq.1 hp).symm
  · have hs : ∀ s ∈ operatorSpellings, s.all isIdentifierStart = false := by decide +kernel
    have hc := hs [c] (List.contains_iff_mem.1 ho)
    simp [h] at hc

/-- What starts like a name is read as a word. -/
theorem scanKind_of_isIdentifierStart {valueExpected afterDot : Bool} {position : Nat} {c : Char}
    {cs : List Char} (h : isIdentifierStart c = true) :
    scanKind valueExpected afterDot position (c :: cs) = readWord afterDot position (c :: cs) := by
  obtain ⟨hdigit, hpoint, hquote, hslash, hpunct, hop⟩ := isIdentifierStart_ne h
  rw [scanKind, if_neg (by simp [hdigit, hpoint]), if_neg hquote, if_neg fun hs => hslash hs.1, hpunct]
  dsimp only
  rw [if_neg (by simp [hop]), if_pos h]

theorem isLeaf_of_readOperator {position : Nat} {cs rest : List Char} {kind : TokenKind}
    (h : readOperator position cs = .ok (kind, rest)) : kind.isLeaf = false := by
  obtain ⟨kind', hop, he⟩ := bind_eq_ok_iff.1 h
  obtain ⟨rfl, -⟩ := Prod.mk.inj (Except.ok.inj he)
  unfold kindOfOperator at hop
  split at hop
  · cases hop
    rfl
  · split at hop <;> cases hop
    rfl

theorem readNumber_dot {position : Nat} {kind : TokenKind} {rest : List Char} :
    readNumber position ['.'] ≠ .ok (kind, rest) := by
  nofun

/-- A literal or a name takes characters that make the same token wherever a value can stand. -/
theorem scanKind_local {valueExpected afterDot : Bool} {position : Nat} {cs rest : List Char}
    {kind : TokenKind} (hk : kind.isLeaf = true) (hdot : ∀ s, kind = .name s → afterDot = false)
    (h : scanKind valueExpected afterDot position cs = .ok (kind, rest)) : ∃ raw, cs = raw ++ rest ∧
      ∀ position' r, kind.Ends raw r → scanKind true false position' (raw ++ r) = .ok (kind, r) := by
  have hlt := (scanKind_suffix h).2 (by cases kind <;> first | rfl | cases hk)
  -- a reader that takes characters takes the first one
  have first : ∀ {c : Char} {more raw : List Char}, cs = c :: more → c :: more = raw ++ rest →
      ∃ raw', raw = c :: raw' ∧ more = raw' ++ rest := by
    rintro c more raw rfl he
    cases raw with
    | nil =>
      rw [List.nil_append] at he
      rw [he] at hlt
      exact absurd hlt (Nat.lt_irrefl _)
    | cons d raw' =>
      obtain ⟨rfl, rfl⟩ := List.cons.inj he
      exact ⟨raw', rfl, rfl⟩
  unfold scanKind at h
  split at h
  · cases h
    cases hk
  rename_i c more
  split at h
  · rename_i hc
    obtain ⟨raw, he, hraw⟩ := readNumber_local h
    obtain ⟨raw', rfl, rfl⟩ := first rfl he
    refine ⟨c :: raw', rfl, fun position' r hr => ?_⟩
    have hc' : (c.isDigit || (c == '.' && (raw' ++ r).head?.any Char.isDigit)) = true := by
      cases raw' with
      | nil =>
        rw [Bool.or_eq_true, Bool.and_eq_true, beq_iff_eq] at hc
        rcases hc with hd | ⟨rfl, -⟩
        · rw [hd, Bool.true_or]
        · exact absurd (hraw position' [] .nil) readNumber_dot
      | cons d raw' => exact hc
    rw [List.cons_append, scanKind, if_pos hc']
    exact hraw position' r hr
  rename_i hnum
  split at h
  · rename_i hq
    obtain ⟨⟨text, rest'⟩, hs, he⟩ := bind_eq_ok_iff.1 h
    obtain ⟨rfl, rfl⟩ := Prod.mk.inj (Except.ok.inj he)
    obtain ⟨d, used, hused, hlocal⟩ := readString_local hs
    refine ⟨c :: d :: used, by rw [List.cons_append, ← hused], fun position' r hr => ?_⟩
    rw [List.cons_append, scanKind, if_neg ?_, if_pos hq, hlocal]
    · rfl
    · rcases hq with rfl | rfl <;> exact Bool.false_ne_true
  rename_i hquote
  split at h
  · rename_i hslash
    obtain ⟨raw, rfl, hlocal⟩ := readRegex_local h
    obtain ⟨rfl, -⟩ := hslash
    refine ⟨'/' :: raw, rfl, fun position' r hr => ?_⟩
    rw [List.cons_append, scanKind, if_neg ?_, if_neg (by decide), if_pos ⟨rfl, rfl⟩]
    · exact hlocal position' r hr.head
    · exact Bool.false_ne_true
  split at h
  · cases h
    cases hk
  rename_i hpunct
  split at h
  · rw [isLeaf_of_readOperator h] at hk
    cases hk
  split at h
  · rename_i hstart
    have hword : readWord false position (c :: more) = .ok (kind, rest) := by
      cases afterDot with
      | false => exact h
      | true =>
        obtain ⟨kind', hname, he⟩ := bind_eq_ok_iff.1 h
        obtain ⟨rfl, -⟩ := Prod.mk.inj (Except.ok.inj he)
        obtain rfl := Except.ok.inj hname
        cases hdot _ rfl
    obtain ⟨raw, he, hlocal⟩ := readWord_local hword
    obtain ⟨raw', rfl, rfl⟩ := first rfl he
    refine ⟨c :: raw', rfl, fun position' r hr => ?_⟩
    rw [List.cons_append, scanKind_of_isIdentifierStart hstart]
    exact hlocal position' r hr.head
  · cases h

end Token

end DataBinding
