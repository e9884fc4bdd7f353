import DataBinding.Proofs.Printing.Local

/-!
# What tokens are read from

The first character of a token tells which reader takes it. `Token.Scans` has a case for each reader,
with what it takes, and does not speak of positions, which only faults depend on. What follows a token
may be something else, as long as the token does not go on: every reader looks one character ahead.

Results:

* `Token.scanKind_eq_ok_iff`: the reader of one token by its cases.
* `Token.Scans.elsewhere`: a token in front of other characters.
-/

namespace DataBinding.Token

/-- Do the characters start a number? -/
def startsNumber (c : Char) (cs : List Char) : Bool :=
  c.isDigit || (c == '.' && cs.head?.any Char.isDigit)

/-- The characters `c :: cs` start with a token of this kind, and `rest` follows it. -/
inductive Scans (valueExpected afterDot : Bool) (c : Char) (cs : List Char) :
    TokenKind → List Char → Prop where
  | number {x : Float} (hc : startsNumber c cs = true)
      (hx : numberValue? (spanNumber .start (c :: cs)).1 = some x) :
      Scans valueExpected afterDot c cs (.number x) (spanNumber .start (c :: cs)).2
  | string {text rest : List Char} (hc : c = '\x22' ∨ c = '\x27')
      (h : ∀ start position, readString c start position cs = .ok (text, rest)) :
      Scans valueExpected afterDot c cs (.string (String.ofList text)) rest
  | regex {pattern rest : List Char} (hc : c = '/') (hv : valueExpected = true)
      (hp : readPattern? false cs = some (pattern, rest)) (hne : pattern.isEmpty = false)
      (hf : validFlags (rest.takeWhile isIdentifierPart) = true) :
      Scans valueExpected afterDot c cs
        (.regex (String.ofList pattern) (String.ofList (rest.takeWhile isIdentifierPart)))
        (rest.dropWhile isIdentifierPart)
  | punct (p : Punct) (hc : c = p.char) (hn : startsNumber c cs = false) :
      Scans valueExpected afterDot c cs (.punct p) cs
  | operator {kind : TokenKind} (hc : isOperatorChar c = true) (hv : c = '/' → valueExpected = false)
      (hk : ∀ position, kindOfOperator position
        (String.ofList (extendOperator [] (c :: cs)).1) = .ok kind) :
      Scans valueExpected afterDot c cs kind (extendOperator [] (c :: cs)).2
  | word {kind : TokenKind} (hc : isIdentifierStart c = true)
      (hk : ∀ position, kindOfWord afterDot position
        (String.ofList ((c :: cs).takeWhile isIdentifierPart)) = .ok kind) :
      Scans valueExpected afterDot c cs kind ((c :: cs).dropWhile isIdentifierPart)

/-! ## The reader of one token -/

theorem eq_char_of_ofChar? {c : Char} {p : Punct} (h : Punct.ofChar? c = some p) : c = p.char := by
  unfold Punct.ofChar? at h
  have hp := List.find?_some h
  exact (beq_iff_eq.1 hp).symm

/-- Whether an operator is allowed does not depend on its place. -/
theorem kindOfOperator_local {position : Nat} {op : String} {kind : TokenKind}
    (h : kindOfOperator position op = .ok kind) (position' : Nat) :
    kindOfOperator position' op = .ok kind := by
  unfold kindOfOperator at h ⊢
  split at h
  · rename_i he
    rw [if_pos he]
    exact h
  · rename_i he
    rw [if_neg he]
    split at h
    · exact h
    · cases h

/-- Nor does what a word is. -/
theorem kindOfWord_position {afterDot : Bool} {position : Nat} {word : String} {kind : TokenKind}
    (h : kindOfWord afterDot position word = .ok kind) (position' : Nat) :
    kindOfWord afterDot position' word = .ok kind := by
  cases afterDot with
  | true => exact h
  | false => exact kindOfWord_local h position'

/-- An operator starts with no digit, mark or quote. -/
theorem isOperatorChar_ne {c : Char} (h : isOperatorChar c = true) : c.isDigit = false ∧ c ≠ '.' ∧
    ¬ (c = '\x22' ∨ c = '\x27') ∧ Punct.ofChar? c = none := by
  have hall : (operatorSpellings.all fun s => s.head?.all fun c => !c.isDigit && c != '.' &&
      !(c == '\x22' || c == '\x27') && (Punct.ofChar? c).isNone) = true := by decide +kernel
  simpa [and_assoc] using List.all_eq_true.1 hall [c] (List.contains_iff_mem.1 h)

theorem scanKind_cons (valueExpected afterDot : Bool) (position : Nat) (c : Char) (cs : List Char) :
    scanKind valueExpected afterDot position (c :: cs) =
      if startsNumber c cs = true then readNumber position (c :: cs)
      else if c = '\x22' ∨ c = '\x27' then do
        let (text, rest) ← readString c position (position + 1) cs
        return (.string (String.ofList text), rest)
      else if c = '/' ∧ valueExpected then readRegex position cs
      else if let some p := Punct.ofChar? c then .ok (.punct p, cs)
      else if isOperatorChar c then readOperator position (c :: cs)
      else if isIdentifierStart c then readWord afterDot position (c :: cs)
      else .error (.unexpectedChar c position) := rfl

/-- What a token is read from, by the reader that takes it. -/
theorem scans_of_scanKind {valueExpected afterDot : Bool} {position : Nat} {c : Char}
    {cs rest : List Char} {kind : TokenKind}
    (h : scanKind valueExpected afterDot position (c :: cs) = .ok (kind, rest)) :
    Scans valueExpected afterDot c cs kind rest := by
  rw [scanKind_cons] at h
  split at h
  · rename_i hc
    unfold readNumber at h
    dsimp only at h
    split at h
    · rename_i hx
      cases h
      exact .number hc hx
    · cases h
  rename_i hnumber
  split at h
  · rename_i hc
    obtain ⟨⟨text, rest'⟩, hs, h⟩ := bind_eq_ok_iff.1 h
    cases h
    obtain ⟨d, used, rfl, hlocal⟩ := readString_local hs
    exact .string hc fun start position => hlocal start position _
  split at h
  · rename_i hc
    unfold readRegex at h
    split at h
    · cases h
    rename_i hp
    split at h
    · cases h
    rename_i hne
    dsimp only at h
    split at h
    · rename_i hf
      cases h
      exact .regex hc.1 hc.2 hp (Bool.eq_false_iff.2 hne) hf
    · cases h
  rename_i hslash
  split at h
  · rename_i p hp
    cases h
    exact .punct p (eq_char_of_ofChar? hp) (Bool.eq_false_iff.2 hnumber)
  split at h
  · rename_i hc
    obtain ⟨kind', hk, h⟩ := bind_eq_ok_iff.1 h
    cases h
    exact .operator hc (fun he => Bool.eq_false_iff.2 fun hv => hslash ⟨he, hv⟩)
      (kindOfOperator_local hk)
  split at h
  · rename_i hc
    obtain ⟨kind', hk, h⟩ := bind_eq_ok_iff.1 h
    cases h
    exact .word hc (kindOfWord_position hk)
  · cases h

/-- The reader of one token finds what the token is read from. -/
theorem Scans.scanKind_eq {valueExpected afterDot : Bool} {c : Char} {cs rest : List Char}
    {kind : TokenKind} (h : Scans valueExpected afterDot c cs kind rest) (position : Nat) :
    scanKind valueExpected afterDot position (c :: cs) = .ok (kind, rest) := by
  cases h with
  | number hc hx =>
    rw [scanKind_cons, if_pos hc, readNumber]
    simp only [hx]
  | string hc h =>
    rw [scanKind_cons, if_neg (by rcases hc with rfl | rfl <;> exact Bool.false_ne_true), if_pos hc, h]
    rfl
  | regex hc hv hp hne hf =>
    subst hc hv
    rw [scanKind_cons, if_neg ?_, if_neg (by decide), if_pos ⟨rfl, rfl⟩, readRegex, hp]
    · simp only [hne, hf, if_true, Bool.false_eq_true, if_false]
    · exact Bool.false_ne_true
  | punct p hc hn =>
    subst hc
    have hquote : ¬ (p.char = '\x22' ∨ p.char = '\x27') := by cases p <;> decide
    have hslash : p.char ≠ '/' := by cases p <;> decide
    rw [scanKind_cons, if_neg (Bool.eq_false_iff.1 hn), if_neg hquote, if_neg fun hs => hslash hs.1,
      Punct.ofChar?_char]
  | operator hc hv hk =>
    obtain ⟨hdigit, hdot, hquote, hpunct⟩ := isOperatorChar_ne hc
    rw [scanKind_cons, if_neg (by simp [startsNumber, hdigit, hdot]), if_neg hquote, if_neg ?_, hpunct]
    · dsimp only
      rw [if_pos hc, readOperator]
      simp only [hk, bind, Except.bind, pure, Except.pure]
    · rintro ⟨he, htrue⟩
      rw [hv he] at htrue
      cases htrue
  | word hc hk =>
    rw [scanKind_of_isIdentifierStart hc, readWord, hk]
    rfl

/-- The reader of one token by its cases. -/
theorem scanKind_eq_ok_iff {valueExpected afterDot : Bool} {position : Nat} {c : Char}
    {cs rest : List Char} {kind : TokenKind} :
    scanKind valueExpected afterDot position (c :: cs) = .ok (kind, rest) ↔
      Scans valueExpected afterDot c cs kind rest :=
  ⟨scans_of_scanKind, fun h => h.scanKind_eq position⟩

/-- A character is never the end of the input. -/
theorem Scans.isEof_eq_false {valueExpected afterDot : Bool} {c : Char} {cs rest : List Char}
    {kind : TokenKind} (h : Scans valueExpected afterDot c cs kind rest) : kind.isEof = false := by
  cases h with
  | number | string | regex | punct => rfl
  | operator _ _ hk =>
    have hk := hk 0
    unfold kindOfOperator at hk
    split at hk
    · cases hk
      rfl
    · split at hk <;> cases hk
      rfl
  | word _ hk =>
    have hk := hk 0
    unfold kindOfWord at hk
    split at hk
    · cases hk
      rfl
    split at hk
    · cases hk
      rfl
    split at hk
    · cases hk
      rfl
    -- neither forbidden nor reserved
    iterate 2
      split at hk
      · cases hk
    cases hk
    rfl

/-! ## In front of other characters -/

/-- Every token ends before these characters: a stop or any blank. -/
def isEnd (c : Char) : Bool := isStop c || Unicode.isWhitespace c

theorem isEnd_of_isWhitespace {c : Char} (h : Unicode.isWhitespace c = true) : isEnd c = true := by
  rw [isEnd, h, Bool.or_true]

theorem isIdentifierPart_of_isEnd {c : Char} (h : isEnd c = true) : isIdentifierPart c = false := by
  rw [isEnd, Bool.or_eq_true] at h
  rcases h with h | h
  · exact isIdentifierPart_of_isStop (.inl h)
  · refine Bool.eq_false_iff.2 fun hc => ?_
    rw [isWhitespace_of_isIdentifierPart hc] at h
    cases h

/-- A number does not go on with a blank. -/
theorem NumberState.next?_of_isEnd (st : NumberState) {c : Char} (h : isEnd c = true) :
    st.next? c = none := by
  have hpart := isIdentifierPart_of_isEnd h
  rw [isEnd, Bool.or_eq_true] at h
  rcases h with h | h
  · exact st.next?_of_isStop h
  have letter : ∀ d, isIdentifierPart d = true → c ≠ d := by
    rintro d hd rfl
    rw [hpart] at hd
    cases hd
  have mark : ∀ d, Unicode.isWhitespace d = false → c ≠ d := by
    rintro d hd rfl
    rw [h] at hd
    cases hd
  have hx : ¬ (c = 'x' ∨ c = 'X') :=
    not_or.2 ⟨letter _ (by decide +kernel), letter _ (by decide +kernel)⟩
  have he : ¬ ((c = 'e' ∨ c = 'E') ∧ ¬ st.hasX = true) := fun he =>
    he.1.elim (letter _ (by decide +kernel)) (letter _ (by decide +kernel))
  have hsign : ¬ (c = '+' ∨ c = '-') := not_or.2 ⟨mark _ rfl, mark _ rfl⟩
  have halpha : ¬ Unicode.isAlphanumeric c = true := fun ha => by simp [isIdentifierPart, ha] at hpart
  unfold next?
  rw [if_neg hx, if_neg he, if_neg hsign, if_neg (mark _ rfl), if_neg halpha]

/-- Tokens that end before `rest` end before `rest'` too: it starts with the same character or with one
    that ends every token, if with any. -/
def EndsAlike (rest rest' : List Char) : Prop :=
  ∀ c, rest'.head? = some c → rest.head? = some c ∨ isEnd c = true

/-- Every token ends before these characters, if there are any. -/
def EndsTokens (r : List Char) : Prop := ∀ c, r.head? = some c → isEnd c = true

theorem EndsTokens.nil : EndsTokens [] := fun _ h => nomatch h

theorem EndsTokens.cons {c : Char} {r : List Char} (hc : isEnd c = true) : EndsTokens (c :: r) := by
  rintro d ⟨⟩
  exact hc

theorem endsAlike_append {r : List Char} (hr : EndsTokens r) (rest : List Char) :
    EndsAlike rest (rest ++ r) := by
  cases rest with
  | nil => exact fun c hc => .inr (hr c hc)
  | cons d rest => exact fun c hc => .inl hc

theorem span_endsAlike {p : Char → Bool} (hp : ∀ c, isEnd c = true → p c = false)
    {cs rest' : List Char} (h : EndsAlike (cs.dropWhile p) rest') :
    (cs.takeWhile p ++ rest').takeWhile p = cs.takeWhile p ∧
      (cs.takeWhile p ++ rest').dropWhile p = rest' := by
  have hall : ∀ c ∈ cs.takeWhile p, p c = true :=
    fun c hc => List.all_eq_true.1 List.all_takeWhile c hc
  rw [List.takeWhile_append_of_pos hall, List.dropWhile_append_of_pos hall]
  cases rest' with
  | nil => simp
  | cons c r =>
    have hc : p c = false := by
      rcases h c rfl with hc | hc
      · have hhead := List.head?_dropWhile_not p cs
        rw [hc] at hhead
        exact hhead
      · exact hp c hc
    simp [hc]

theorem spanNumber_endsAlike {st : NumberState} {cs rest' : List Char}
    (h : EndsAlike (spanNumber st cs).2 rest') :
    spanNumber st ((spanNumber st cs).1 ++ rest') = ((spanNumber st cs).1, rest') := by
  have stops : ∀ (st : NumberState) {c : Char} {r : List Char}, st.next? c = none →
      spanNumber st (c :: r) = ([], c :: r) := by
    intro st c r hc
    rw [spanNumber, hc]
  fun_induction spanNumber st cs with
  | case1 st =>
    cases rest' with
    | nil => rfl
    | cons c r =>
      refine stops st (st.next?_of_isEnd ?_)
      exact (h c rfl).resolve_left (by simp)
  | case2 st c cs st' hc raw rest hs ih =>
    rw [hs] at ih
    rw [List.cons_append, spanNumber, hc]
    simp only [ih h]
  | case3 st c cs hc =>
    cases rest' with
    | nil => rfl
    | cons d r =>
      refine stops st ?_
      rcases h d rfl with hd | hd
      · cases hd
        exact hc
      · exact st.next?_of_isEnd hd

/-- No operator has such a character at its end. -/
theorem operatorSpellings_end {op : List Char} {c : Char} (hc : isEnd c = true) :
    operatorSpellings.contains (op ++ [c]) = false := by
  have hall : (operatorSpellings.all fun s => s.getLast?.all fun c => !isEnd c) = true := by
    decide +kernel
  refine Bool.eq_false_iff.2 fun hm => ?_
  have hlast := List.all_eq_true.1 hall (op ++ [c]) (List.contains_iff_mem.1 hm)
  simp [hc] at hlast

theorem extendOperator_endsAlike (op cs : List Char) : ∃ used, cs = used ++ (extendOperator op cs).2 ∧
    ∀ rest', EndsAlike (extendOperator op cs).2 rest' →
      extendOperator op (used ++ rest') = ((extendOperator op cs).1, rest') := by
  have stops : ∀ (op : List Char) {c : Char} {r : List Char},
      operatorSpellings.contains (op ++ [c]) = false → extendOperator op (c :: r) = (op, c :: r) := by
    intro op c r hc
    rw [extendOperator, if_neg (Bool.eq_false_iff.1 hc)]
  fun_induction extendOperator op cs with
  | case1 op =>
    refine ⟨[], rfl, fun rest' h => ?_⟩
    cases rest' with
    | nil => rfl
    | cons c r => exact stops op (operatorSpellings_end ((h c rfl).resolve_left (by simp)))
  | case2 op c cs hc ih =>
    obtain ⟨used, hused, ih⟩ := ih
    refine ⟨c :: used, by rw [List.cons_append, ← hused], fun rest' h => ?_⟩
    rw [List.cons_append, extendOperator, if_pos hc, ih rest' h]
  | case3 op c cs hc =>
    refine ⟨[], rfl, fun rest' h => ?_⟩
    cases rest' with
    | nil => rfl
    | cons d r =>
      refine stops op ?_
      rcases h d rfl with hd | hd
      · cases hd
        exact Bool.eq_false_iff.2 hc
      · exact operatorSpellings_end hd

/-- An operator takes its first character. -/
theorem exists_extendOperator_cons {c : Char} {cs : List Char} (hc : isOperatorChar c = true) :
    ∃ used, cs = used ++ (extendOperator [] (c :: cs)).2 ∧
      ∀ rest', EndsAlike (extendOperator [] (c :: cs)).2 rest' →
        extendOperator [] (c :: (used ++ rest')) = ((extendOperator [] (c :: cs)).1, rest') := by
  have first : ∀ cs, extendOperator [] (c :: cs) = extendOperator [c] cs := by
    intro cs
    unfold isOperatorChar at hc
    rw [extendOperator, List.nil_append, if_pos hc]
  obtain ⟨used, hused, hextend⟩ := extendOperator_endsAlike [c] cs
  rw [first]
  exact ⟨used, hused, fun rest' h => (first _).trans (hextend rest' h)⟩

theorem isDigit_of_isEnd {c : Char} (hc : isEnd c = true) : c.isDigit = false := by
  refine Bool.eq_false_iff.2 fun hd => ?_
  have hpart := isIdentifierPart_of_isEnd hc
  simp [isIdentifierPart, Unicode.isAlphanumeric, Unicode.isNumeric_of_isDigit hd] at hpart

theorem startsNumber_endsAlike {c : Char} {rest rest' : List Char} (hn : startsNumber c rest = false)
    (h : EndsAlike rest rest') : startsNumber c rest' = false := by
  cases rest' with
  | nil => simpa [startsNumber] using (Bool.or_eq_false_iff.1 hn).1
  | cons d r =>
    rcases h d rfl with hd | hd
    · rw [startsNumber, hd] at hn
      exact hn
    · simpa [startsNumber, isDigit_of_isEnd hd] using (Bool.or_eq_false_iff.1 hn).1

/-- A number takes its first character, and with a point for that one more. -/
theorem exists_spanNumber_cons {c : Char} {cs : List Char} {x : Float}
    (hc : startsNumber c cs = true)
    (hx : numberValue? (spanNumber .start (c :: cs)).1 = some x) :
    ∃ used, (spanNumber .start (c :: cs)).1 = c :: used ∧
      cs = used ++ (spanNumber .start (c :: cs)).2 ∧ ∀ r, startsNumber c (used ++ r) = true := by
  have hfirst : (c.isDigit || c == '.') = true := by
    rw [startsNumber, Bool.or_eq_true, Bool.and_eq_true] at hc
    rw [Bool.or_eq_true]
    exact hc.imp_right And.left
  obtain ⟨st, hst⟩ := NumberState.start_next?_isSome hfirst
  have hspan : spanNumber .start (c :: cs) = (c :: (spanNumber st cs).1, (spanNumber st cs).2) := by
    rw [spanNumber, hst]
  rw [hspan] at hx ⊢
  have happ := spanNumber_append st cs
  refine ⟨_, rfl, happ.symm, fun r => ?_⟩
  cases hused : (spanNumber st cs).1 with
  | nil =>
    rw [startsNumber, Bool.or_eq_true, Bool.and_eq_true, beq_iff_eq] at hc
    rcases hc with hd | ⟨rfl, -⟩
    · rw [startsNumber, hd, Bool.true_or]
    · rw [hused] at hx
      cases hx
  | cons d used =>
    rw [← happ, hused] at hc
    exact hc

/-- A token in front of other characters that end it. -/
theorem Scans.elsewhere {valueExpected afterDot : Bool} {c : Char} {cs rest : List Char}
    {kind : TokenKind} (h : Scans valueExpected afterDot c cs kind rest) : ∃ used, cs = used ++ rest ∧
      ∀ rest', EndsAlike rest rest' → Scans valueExpected afterDot c (used ++ rest') kind rest' := by
  have hend : ∀ c, isEnd c = true → isIdentifierPart c = false := fun c => isIdentifierPart_of_isEnd
  cases h with
  | number hc hx =>
    obtain ⟨used, hraw, hused, hstarts⟩ := exists_spanNumber_cons hc hx
    refine ⟨used, hused, fun rest' hr => ?_⟩
    have hspan := spanNumber_endsAlike hr
    rw [hraw, List.cons_append] at hspan
    have hnumber : Scans valueExpected afterDot c (used ++ rest') (.number _) _ :=
      .number (hstarts rest') (by rw [hspan, ← hraw]; exact hx)
    rwa [hspan] at hnumber
  | string hc h =>
    obtain ⟨e, used, rfl, hlocal⟩ := readString_local (h 0 0)
    exact ⟨e :: used, rfl, fun rest' _ => .string hc fun start position => hlocal start position rest'⟩
  | @regex pattern more hc hv hp hne hf =>
    obtain ⟨used, rfl, hlocal⟩ := readPattern?_local hp
    refine ⟨used ++ more.takeWhile isIdentifierPart, ?_, fun rest' hr => ?_⟩
    · rw [List.append_assoc, List.takeWhile_append_dropWhile]
    · obtain ⟨htake, hdrop⟩ := span_endsAlike hend hr
      have hregex : Scans valueExpected afterDot c
          (used ++ more.takeWhile isIdentifierPart ++ rest') (.regex _ _) _ :=
        .regex hc hv (by rw [List.append_assoc]; exact hlocal _) hne (by rw [htake]; exact hf)
      rwa [htake, hdrop] at hregex
  | punct p hc hn =>
    exact ⟨[], rfl, fun rest' hr => .punct p hc (startsNumber_endsAlike hn hr)⟩
  | operator hc hv hk =>
    obtain ⟨used, hused, hextend⟩ := @exists_extendOperator_cons c cs hc
    refine ⟨used, hused, fun rest' hr => ?_⟩
    have hop : Scans valueExpected afterDot c (used ++ rest') kind _ :=
      .operator hc hv (by rw [hextend rest' hr]; exact hk)
    rwa [hextend rest' hr] at hop
  | word hc hk =>
    have hfirst := isIdentifierPart_of_start hc
    refine ⟨cs.takeWhile isIdentifierPart, ?_, fun rest' hr => ?_⟩
    · rw [List.dropWhile_cons_of_pos hfirst, List.takeWhile_append_dropWhile]
    · obtain ⟨htake, hdrop⟩ := span_endsAlike hend hr
      rw [List.takeWhile_cons_of_pos hfirst, List.cons_append] at htake hdrop
      have hword : Scans valueExpected afterDot c (cs.takeWhile isIdentifierPart ++ rest') kind _ :=
        .word hc (by rw [htake, ← List.takeWhile_cons_of_pos hfirst]; exact hk)
      rwa [hdrop] at hword

end DataBinding.Token
