import DataBinding.Proofs.Grammar.Whole
import DataBinding.Proofs.Token.Scans
import Mathlib.Data.List.Forall2

/-!
# Where faults are found

A fault of the scanner speaks of the characters from its position on: the character that starts no
token, the quote or the slash that is never closed, the backslash of an escape, or the text of the
token that has no place. The readers count their own way to the position, some from the start of the
token and some from inside it, so each of them is shown to point at what it reports.

An escape of a unit that needs another one is reported with capital digits, whatever the case of those
that were read.

Results:

* `Token.pointsAt_of_readUnicodeEscape`, `Token.pointsAt_of_readEscape`, `Token.pointsAt_of_readString`:
  faults inside a string, at the backslash of the escape or of the second half of a pair.
* `Token.pointsAt_of_scanKind`: faults of one token.
* `tokenize_error_describes`: the fault of a text is found inside the text, in front of what it reports.
-/

namespace DataBinding

/-! ## What faults say -/

/-- Are the characters the same, or one hexadecimal digit in either case? -/
def SameDigit (c d : Char) : Prop :=
  c = d ∨ ∃ n, Decimal.digitValue? 16 c = some n ∧ Decimal.digitValue? 16 d = some n

theorem forall₂_sameDigit_refl (cs : List Char) : List.Forall₂ SameDigit cs cs :=
  List.forall₂_same.2 fun _ _ => .inl rfl

namespace LexError

/-- The characters from the position of the fault on are as it says. -/
def Describes (ahead : List Char) : LexError → Prop
  | unexpectedChar c _ => ahead.head? = some c
  | unterminatedString _ => ahead.head? = some '\x22' ∨ ahead.head? = some '\x27'
  | unterminatedRegex _ | invalidRegexFlags _ _ => ahead.head? = some '/'
  | invalidEscape sequence _ =>
    ∃ spelling, '\\' :: spelling <+: ahead ∧ List.Forall₂ SameDigit spelling sequence.toList
  | invalidNumber text _ | operatorNotAllowed text _ | keywordNotAllowed text _ =>
    text ≠ "" ∧ text.toList <+: ahead

/-- The fault is found among the characters `cs`, which start at position `p`. -/
def PointsAt (e : LexError) (p : Nat) (cs : List Char) : Prop :=
  ∃ front ahead, cs = front ++ ahead ∧ e.position = p + front.length ∧ e.Describes ahead

variable {e : LexError} {p : Nat} {cs : List Char}

theorem Describes.ne_nil (h : e.Describes cs) : cs ≠ [] := by
  rintro rfl
  cases e with
  | unexpectedChar | unterminatedRegex | invalidRegexFlags => cases h
  | unterminatedString => rcases h with h | h <;> cases h
  | invalidEscape =>
    obtain ⟨spelling, hp, -⟩ := h
    cases List.prefix_nil.1 hp
  | invalidNumber | operatorNotAllowed | keywordNotAllowed =>
    exact h.1 (String.toList_eq_nil_iff.1 (List.prefix_nil.1 h.2))

theorem pointsAt_of_describes (hp : e.position = p) (h : e.Describes cs) : e.PointsAt p cs :=
  ⟨[], cs, rfl, hp, h⟩

/-- A fault behind other characters. -/
theorem PointsAt.behind (front : List Char) (h : e.PointsAt (p + front.length) cs) :
    e.PointsAt p (front ++ cs) := by
  obtain ⟨front', ahead, rfl, hp, hd⟩ := h
  refine ⟨front ++ front', ahead, (List.append_assoc ..).symm, ?_, hd⟩
  rw [hp, List.length_append, Nat.add_assoc]

/-- An escape as it is written. -/
theorem describes_invalidEscape (spelling rest : List Char) (position : Nat) :
    (invalidEscape (String.ofList spelling) position).Describes ('\\' :: (spelling ++ rest)) :=
  ⟨spelling, List.prefix_append _ rest, by
    rw [String.toList_ofList]
    exact forall₂_sameDigit_refl spelling⟩

/-- A text that is not empty, as it is written. -/
theorem describes_text {text cs : List Char} (hne : text ≠ []) (h : text <+: cs) :
    String.ofList text ≠ "" ∧ (String.ofList text).toList <+: cs := by
  rw [String.toList_ofList]
  refine ⟨fun he => hne ?_, h⟩
  rw [← String.toList_ofList (l := text), he]
  rfl

end LexError

namespace Token

open LexError

/-! ## Escapes -/

variable {e : LexError} {position : Nat} {cs : List Char}

/-- Too few digits are reported with the marker in front of them and the character behind them. -/
theorem exists_of_readHex_error {marker : Char} {count : Nat} {digits : List Char}
    (h : readHex marker position count digits cs = .error e) : ∃ used rest, cs = used ++ rest ∧
      e = .invalidEscape (String.ofList (marker :: (digits ++ used))) position := by
  fun_induction readHex marker position count digits cs with
  | case1 => cases h
  | case2 =>
    cases h
    exact ⟨[], [], rfl, by rw [List.append_nil]⟩
  | case3 _ digits c more _ ih =>
    obtain ⟨used, rest, rfl, he⟩ := ih h
    exact ⟨c :: used, rest, rfl, by rw [he, List.append_assoc, List.singleton_append]⟩
  | case4 _ digits c more =>
    cases h
    exact ⟨[c], more, rfl, rfl⟩

/-- As many digits as are asked for are read. -/
theorem exists_of_readHex {marker : Char} {count n : Nat} {digits rest : List Char}
    (h : readHex marker position count digits cs = .ok (n, rest)) :
    ∃ used, cs = used ++ rest ∧ used.length = count ∧ (∀ c ∈ used, isHexDigit c = true) ∧
      n = digitsValue 16 (digits ++ used) := by
  fun_induction readHex marker position count digits cs with
  | case1 =>
    cases h
    exact ⟨[], rfl, rfl, by simp, by rw [List.append_nil]⟩
  | case2 => cases h
  | case3 _ digits c more hc ih =>
    obtain ⟨used, rfl, hlength, hused, hn⟩ := ih h
    refine ⟨c :: used, rfl, by rw [List.length_cons, hlength], ?_, ?_⟩
    · exact List.forall_mem_cons.2 ⟨hc, hused⟩
    · rw [hn, List.append_assoc, List.singleton_append]
  | case4 => cases h

/-- A hexadecimal digit and its value. -/
theorem exists_digitValue {c : Char} (h : isHexDigit c = true) :
    ∃ n < 16, Decimal.digitValue? 16 c = some n := by
  obtain ⟨n, hn⟩ := Option.isSome_iff_exists.1 h
  refine ⟨n, ?_, hn⟩
  unfold Decimal.digitValue? at hn
  dsimp only at hn
  obtain ⟨hlt, hn⟩ := Option.ite_none_right_eq_some.1 hn
  exact Option.some.inj hn ▸ hlt

/-- The capital digits of a unit are those that it is read from. -/
theorem forall₂_upperHex4 {used : List Char} (hlength : used.length = 4)
    (hused : ∀ c ∈ used, isHexDigit c = true) :
    List.Forall₂ SameDigit used (upperHex4 (digitsValue 16 used)) := by
  obtain ⟨a, b, c, d, rfl⟩ : ∃ a b c d, used = [a, b, c, d] := by
    match used, hlength with
    | [a, b, c, d], _ => exact ⟨a, b, c, d, rfl⟩
  obtain ⟨va, la, ha⟩ := exists_digitValue (hused a (by simp))
  obtain ⟨vb, lb, hb⟩ := exists_digitValue (hused b (by simp))
  obtain ⟨vc, lc, hc⟩ := exists_digitValue (hused c (by simp))
  obtain ⟨vd, ld, hd⟩ := exists_digitValue (hused d (by simp))
  have hn : digitsValue 16 [a, b, c, d] = 16 * (16 * (16 * va + vb) + vc) + vd := by
    simp [digitsValue, ha, hb, hc, hd]
  have written : ∀ v < 16, Decimal.digitValue? 16
      (if v < 10 then Char.ofNat (48 + v) else Char.ofNat (55 + v)) = some v := by decide +kernel
  have same : ∀ {x : Char} {v w : Nat}, Decimal.digitValue? 16 x = some v → v < 16 → w = v →
      SameDigit x (if w < 10 then Char.ofNat (48 + w) else Char.ofNat (55 + w)) := by
    rintro x v _ hx hv rfl
    exact .inr ⟨_, hx, written _ hv⟩
  rw [hn]
  exact .cons (same ha la (by omega)) (.cons (same hb lb (by omega))
    (.cons (same hc lc (by omega)) (.cons (same hd ld (by omega)) .nil)))

/-- A unit that needs another one is reported with its digits. -/
theorem describes_of_charOfUnit {used rest rest' : List Char} (hlength : used.length = 4)
    (hused : ∀ c ∈ used, isHexDigit c = true)
    (h : charOfUnit position (digitsValue 16 used) rest' = .error e) :
    e.position = position ∧ e.Describes ('\\' :: 'u' :: (used ++ rest)) := by
  unfold charOfUnit at h
  split at h
  · cases h
    refine ⟨rfl, 'u' :: used, List.prefix_append _ rest, ?_⟩
    rw [String.toList_ofList]
    exact .cons (.inl rfl) (forall₂_upperHex4 hlength hused)
  · cases h

/-- A fault behind `\u` is found at its backslash or at that of the second half of a pair. -/
theorem pointsAt_of_readUnicodeEscape (h : readUnicodeEscape position cs = .error e) :
    e.PointsAt position ('\\' :: 'u' :: cs) := by
  rcases bind_eq_error_iff.1 h with hhigh | ⟨⟨high, rest⟩, hhigh, h⟩
  · obtain ⟨used, rest, rfl, rfl⟩ := exists_of_readHex_error hhigh
    exact pointsAt_of_describes rfl (describes_invalidEscape ('u' :: used) rest position)
  obtain ⟨used, rfl, hlength, hused, rfl⟩ := exists_of_readHex hhigh
  have alone : ∀ {rest'}, charOfUnit position (digitsValue 16 ([] ++ used)) rest' = .error e →
      e.PointsAt position ('\\' :: 'u' :: (used ++ rest)) := fun h => by
    obtain ⟨hp, hd⟩ := describes_of_charOfUnit hlength hused h
    exact pointsAt_of_describes hp hd
  dsimp only at h
  split at h
  · rename_i more
    split at h
    · rcases bind_eq_error_iff.1 h with hlow | ⟨⟨low, rest'⟩, -, h⟩
      · obtain ⟨used₂, rest₂, rfl, rfl⟩ := exists_of_readHex_error hlow
        -- the first half takes six characters
        refine PointsAt.behind ('\\' :: 'u' :: used) (pointsAt_of_describes ?_ ?_)
        · rw [List.length_cons, List.length_cons, hlength]
          rfl
        · exact describes_invalidEscape ('u' :: used₂) rest₂ _
      · dsimp only at h
        split at h
        · cases h
        · exact alone h
    · exact alone h
  · exact alone h

/-- A fault of an escape is found at a backslash. -/
theorem pointsAt_of_readEscape (h : readEscape position cs = .error e) :
    e.PointsAt position ('\\' :: cs) := by
  unfold readEscape at h
  split at h
  · cases h
  rename_i c rest
  split at h
  · cases h
  split at h
  · cases h
  split at h
  · rename_i hx
    subst hx
    rcases bind_eq_error_iff.1 h with hhex | ⟨_, -, h⟩
    · obtain ⟨used, rest, rfl, rfl⟩ := exists_of_readHex_error hhex
      exact pointsAt_of_describes rfl (describes_invalidEscape ('x' :: used) rest position)
    · cases h
  split at h
  · rename_i hu
    subst hu
    rcases bind_eq_error_iff.1 h with hunit | ⟨_, -, h⟩
    · exact pointsAt_of_readUnicodeEscape hunit
    · cases h
  split at h
  · cases h
  split at h
  · split at h <;> cases h
  · cases h

/-! ## Tokens -/

/-- A fault of a string is that it has no end, or one of its escapes. -/
theorem pointsAt_of_readString {quote : Char} {start : Nat}
    (h : readString quote start position cs = .error e) :
    e = .unterminatedString start ∨ e.PointsAt position cs := by
  fun_induction readString quote start position cs with
  | case1 | case3 =>
    cases h
    exact .inl rfl
  | case2 => cases h
  | case4 position more e' he =>
    cases h
    exact .inr (pointsAt_of_readEscape he)
  | case5 position more out rest he _ _ ih =>
    rcases bind_eq_error_iff.1 h with h | ⟨_, -, h⟩
    · refine (ih h).imp_right fun hp => ?_
      obtain ⟨used, rfl⟩ := readEscape_suffix he
      refine PointsAt.behind ('\\' :: used) ?_
      have hlength : (used ++ rest).length + 1 - rest.length = ('\\' :: used).length := by
        rw [List.length_append, List.length_cons]
        omega
      rwa [hlength] at hp
    · cases h
  | case6 position c more _ _ _ ih =>
    rcases bind_eq_error_iff.1 h with h | ⟨_, -, h⟩
    · exact (ih h).imp_right (PointsAt.behind [c])
    · cases h

/-- A number that is not well formed is found at its first character. -/
theorem describes_of_readNumber {c : Char} (hc : startsNumber c cs = true)
    (h : readNumber position (c :: cs) = .error e) :
    e.position = position ∧ e.Describes (c :: cs) := by
  unfold readNumber at h
  dsimp only at h
  split at h
  · cases h
  · cases h
    refine ⟨rfl, describes_text ?_ ⟨_, spanNumber_append .start (c :: cs)⟩⟩
    have hfirst : (c.isDigit || c == '.') = true := by
      rw [startsNumber, Bool.or_eq_true, Bool.and_eq_true] at hc
      rw [Bool.or_eq_true]
      exact hc.imp_right And.left
    obtain ⟨st, hst⟩ := NumberState.start_next?_isSome hfirst
    rw [spanNumber, hst]
    exact List.cons_ne_nil _ _

/-- An operator without a place is found at its first character. -/
theorem describes_of_readOperator {c : Char} (hc : isOperatorChar c = true)
    (h : readOperator position (c :: cs) = .error e) :
    e.position = position ∧ e.Describes (c :: cs) := by
  have htaken : (extendOperator [] (c :: cs)).1 ≠ [] := by
    obtain ⟨more, hmore⟩ := extendOperator_prefix [c] cs
    unfold isOperatorChar at hc
    rw [extendOperator, List.nil_append, if_pos hc, ← hmore]
    exact List.cons_ne_nil _ _
  have htext := describes_text htaken ⟨_, extendOperator_append [] (c :: cs)⟩
  rcases bind_eq_error_iff.1 h with h | ⟨_, -, h⟩
  · unfold kindOfOperator at h
    split at h
    · cases h
    split at h
    · cases h
    · cases h
      exact ⟨rfl, htext⟩
  · cases h

/-- A word without a place is found at its first character. -/
theorem describes_of_readWord {afterDot : Bool} {c : Char} (hc : isIdentifierStart c = true)
    (h : readWord afterDot position (c :: cs) = .error e) :
    e.position = position ∧ e.Describes (c :: cs) := by
  have hword := @describes_text ((c :: cs).takeWhile isIdentifierPart) (c :: cs)
    (by rw [List.takeWhile_cons_of_pos (isIdentifierPart_of_start hc)]; exact List.cons_ne_nil _ _)
    (List.takeWhile_prefix _)
  rcases bind_eq_error_iff.1 h with h | ⟨_, -, h⟩
  · unfold kindOfWord at h
    iterate 3
      split at h
      · cases h
    -- an operator spelled as a word, then a reserved word
    iterate 2
      split at h
      · cases h
        exact ⟨rfl, hword⟩
    cases h
  · cases h

/-- A fault of a regular expression is found at its first slash. -/
theorem describes_of_readRegex (h : readRegex position cs = .error e) :
    e.position = position ∧ e.Describes ('/' :: cs) := by
  unfold readRegex at h
  split at h
  · cases h
    exact ⟨rfl, rfl⟩
  split at h
  · cases h
    exact ⟨rfl, rfl⟩
  dsimp only at h
  split at h
  · cases h
  · cases h
    exact ⟨rfl, rfl⟩

/-- A fault of one token is found at its first character or inside a string. -/
theorem pointsAt_of_scanKind {valueExpected afterDot : Bool}
    (h : scanKind valueExpected afterDot position cs = .error e) : e.PointsAt position cs := by
  have found : ∀ {cs}, e.position = position ∧ e.Describes cs → e.PointsAt position cs :=
    fun h => pointsAt_of_describes h.1 h.2
  cases cs with
  | nil => cases h
  | cons c cs =>
    rw [scanKind_cons] at h
    split at h
    · rename_i hc
      exact found (describes_of_readNumber hc h)
    split at h
    · rename_i hc
      rcases bind_eq_error_iff.1 h with h | ⟨_, -, h⟩
      · rcases pointsAt_of_readString h with rfl | hp
        · refine pointsAt_of_describes rfl ?_
          rcases hc with rfl | rfl
          · exact .inl rfl
          · exact .inr rfl
        · exact PointsAt.behind [c] hp
      · cases h
    split at h
    · rename_i hc
      rw [hc.1]
      exact found (describes_of_readRegex h)
    split at h
    · cases h
    split at h
    · rename_i hc
      exact found (describes_of_readOperator hc h)
    split at h
    · rename_i hc
      exact found (describes_of_readWord hc h)
    · cases h
      exact found ⟨rfl, rfl⟩

end Token

/-! ## Texts -/

namespace Cursor

open LexError

/-- A fault of the next token is found behind the blanks. -/
theorem pointsAt_of_next {c : Cursor} {e : LexError} (h : c.next = .error e) :
    e.PointsAt c.position c.rest := by
  have hrest : c.rest = c.blanks ++ c.afterBlanks := List.takeWhile_append_dropWhile.symm
  rcases bind_eq_error_iff.1 h with h | ⟨_, -, h⟩
  · rw [hrest]
    exact PointsAt.behind c.blanks (Token.pointsAt_of_scanKind h)
  · cases h

/-- A fault is found among the characters ahead. -/
theorem pointsAt_of_scan (c : Cursor) {e : LexError} (h : c.scan.2 = some e) :
    e.PointsAt c.position c.rest := by
  rw [scan_eq] at h
  cases hnext : c.next with
  | error e' =>
    rw [hnext] at h
    cases h
    exact pointsAt_of_next hnext
  | ok r =>
    obtain ⟨t, c'⟩ := r
    simp only [hnext] at h
    by_cases ht : t.kind.isEof = true
    · simp [ht] at h
    rw [if_neg ht] at h
    have hlt := next_length_lt hnext (Bool.eq_false_iff.2 ht)
    obtain ⟨hrest, hp, hp'⟩ := next_rest hnext
    have ih := pointsAt_of_scan c' h
    rw [hrest]
    refine PointsAt.behind _ ?_
    rwa [List.length_append, ← Nat.add_assoc, ← hp, ← hp']
termination_by c.rest.length

end Cursor

/-- The fault of a text is found inside the text, in front of what it reports. -/
theorem tokenize_error_describes {source : String} {e : LexError} (h : tokenize source = .error e) :
    e.position < source.length ∧ e.Describes (source.toList.drop e.position) := by
  have hscan : (Cursor.start source).scan.2 = some e := by
    unfold tokenize at h
    split at h
    · cases h
    · rename_i hs
      cases h
      rw [hs]
  obtain ⟨front, ahead, hsource, hp, hd⟩ := (Cursor.start source).pointsAt_of_scan hscan
  have hsplit : source.toList = front ++ ahead := hsource
  have hposition : e.position = front.length := hp.trans (Nat.zero_add _)
  rw [hposition, hsplit, List.drop_left, ← String.length_toList, hsplit, List.length_append]
  exact ⟨Nat.lt_add_of_pos_right (List.length_pos_iff.2 hd.ne_nil), hd⟩

/-- A second half of a pair with too few digits, and a first half alone, which is reported with capital
    digits. -/
theorem tokenize_error_describes_halves :
    tokenize "a '\\ud83d\\u0g'" = .error (.invalidEscape "u0g" 9) ∧
      (LexError.invalidEscape "u0g" 9).Describes "\\u0g'".toList ∧
    tokenize "a '\\ud83d\\u0041'" = .error (.invalidEscape "uD83D" 3) ∧
      (LexError.invalidEscape "uD83D" 3).Describes "\\ud83d\\u0041'".toList := by
  have half : tokenize "a '\\ud83d\\u0g'" = .error (.invalidEscape "u0g" 9) :=
    error?_eq_some_iff.1 (by decide +kernel)
  have alone : tokenize "a '\\ud83d\\u0041'" = .error (.invalidEscape "uD83D" 3) :=
    error?_eq_some_iff.1 (by decide +kernel)
  exact ⟨half, (tokenize_error_describes half).2, alone, (tokenize_error_describes alone).2⟩

end DataBinding
