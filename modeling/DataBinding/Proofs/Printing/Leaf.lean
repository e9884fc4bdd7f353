import DataBinding.Proofs.Grammar.Whole
import DataBinding.Proofs.Printing.Local

/-!
# Texts that are one token

A text that is one token, a literal or a name, is read as that token wherever it stands in the place
of a value and what follows ends it. So are the quoted text of a string, the names that start with a
dollar sign, and the texts of the literals and names of any source.

Results:

* `IsToken.scanKind`: the token is read in the place of any value.
* `isToken_quote`, `isToken_dollar`: quoted strings and names with a dollar sign.
* `Cursor.isToken_of_next`: the literals and names of a source.
-/

namespace DataBinding

/-- The text is one token of this kind. -/
def IsToken (raw : String) (kind : TokenKind) : Prop :=
  ∃ t last, tokenize raw = .ok [t, last] ∧ t.Is kind raw

theorem TokenKind.isEof_of_isLeaf {kind : TokenKind} (h : kind.isLeaf = true) : kind.isEof = false := by
  cases kind <;> first | rfl | cases h

theorem LiteralValue.isLeaf_kind (v : LiteralValue) : v.kind.isLeaf = true := by
  cases v with
  | boolean b => cases b <;> rfl
  | _ => rfl

theorem ObjectKey.isLeaf_kind (key : ObjectKey) : key.kind.isLeaf = true := by
  cases key with
  | literal l => exact l.value.isLeaf_kind
  | symbol s => rfl

theorem LiteralValue.eq_number_of_kind {v : LiteralValue} {x : Float} (h : v.kind = .number x) :
    v = .number x := by
  cases v with
  | boolean b => cases b <;> cases h
  | _ => cases h <;> rfl

/-! ## The only token of a text -/

/-- A text that the reader takes all of has one token, and then ends. -/
theorem tokenize_of_scanKind {raw : String} {kind : TokenKind} (hk : kind.isEof = false)
    (hb : raw.toList.takeWhile Unicode.isWhitespace = [])
    (h : Token.scanKind true false 0 raw.toList = .ok (kind, [])) :
    tokenize raw = .ok [⟨kind, raw, 0⟩, ⟨.eof, "", raw.toList.length⟩] := by
  have hafter : raw.toList.dropWhile Unicode.isWhitespace = raw.toList := by
    have happ := List.takeWhile_append_dropWhile (p := Unicode.isWhitespace) (l := raw.toList)
    rwa [hb, List.nil_append] at happ
  have hnext : (Cursor.start raw).next =
      .ok (⟨kind, raw, 0⟩, (Cursor.start raw).after kind []) := by
    unfold Cursor.next Cursor.tokenStart Cursor.blanks Cursor.afterBlanks Cursor.start
    dsimp only
    rw [hb, hafter, List.length_nil, h]
    simp [bind, Except.bind, pure, Except.pure]
  have hposition : ((Cursor.start raw).after kind []).tokenStart = raw.toList.length := by
    unfold Cursor.after Cursor.tokenStart Cursor.blanks Cursor.afterBlanks Cursor.start
    dsimp only
    rw [hb, hafter]
    simp
  obtain ⟨c, hlast⟩ : ∃ c, ((Cursor.start raw).after kind []).next =
      .ok (⟨.eof, "", raw.toList.length⟩, c) := by
    rw [← hposition]
    exact ⟨_, rfl⟩
  exact tokenize_eq_ok_iff.2 (Cursor.scan_cons hnext hk (Cursor.scan_last hlast rfl))

/-- A text is one token if the reader takes all of it. -/
theorem isToken_of_scanKind {raw : String} {kind : TokenKind} (hk : kind.isEof = false)
    (hb : raw.toList.takeWhile Unicode.isWhitespace = [])
    (h : Token.scanKind true false 0 raw.toList = .ok (kind, [])) : IsToken raw kind :=
  ⟨_, _, tokenize_of_scanKind hk hb h, rfl, rfl⟩

/-- The reader takes all of a text that is one token. -/
theorem IsToken.scanKind_start {raw : String} {kind : TokenKind} (h : IsToken raw kind) :
    raw.toList.takeWhile Unicode.isWhitespace = [] ∧
      Token.scanKind true false 0 raw.toList = .ok (kind, []) := by
  obtain ⟨t, last, htokens, hkind, hraw⟩ := h
  have hscan := tokenize_eq_ok_iff.1 htokens
  rw [Cursor.scan_eq] at hscan
  cases hnext : (Cursor.start raw).next with
  | error e => simp [hnext] at hscan
  | ok next =>
    obtain ⟨t', c'⟩ := next
    rw [hnext] at hscan
    dsimp only at hscan
    split at hscan
    · simp at hscan
    · obtain ⟨rfl, -⟩ := List.cons.inj (Prod.mk.inj hscan).1
      -- the token is the whole text, so neither blanks nor a rest are left
      have happ := (Cursor.next_rest hnext).1
      have hlen := congrArg List.length happ
      rw [List.length_append, List.length_append, hraw] at hlen
      have hblanks : (Cursor.start raw).blanks = [] := by
        refine List.eq_nil_of_length_eq_zero ?_
        simp only [Cursor.start] at hlen ⊢
        omega
      have hrest : c'.rest = [] := by
        refine List.eq_nil_of_length_eq_zero ?_
        simp only [Cursor.start] at hlen
        omega
      refine ⟨hblanks, ?_⟩
      obtain ⟨⟨kind', rest⟩, hk, he⟩ := bind_eq_ok_iff.1 hnext
      have hafter : (Cursor.start raw).afterBlanks = raw.toList := by
        have happ' := List.takeWhile_append_dropWhile (p := Unicode.isWhitespace) (l := raw.toList)
        rwa [show raw.toList.takeWhile Unicode.isWhitespace = [] from hblanks] at happ'
      rw [hafter, Cursor.tokenStart, hblanks] at hk
      obtain ⟨ht, rfl⟩ := Prod.mk.inj (Except.ok.inj he)
      subst ht
      dsimp only at hkind hrest
      rw [← hkind, ← hrest]
      exact hk

/-- A literal or a name that is a text of its own is read in the place of any value. -/
theorem IsToken.scanKind {raw : String} {kind : TokenKind} (h : IsToken raw kind)
    (hk : kind.isLeaf = true) (position : Nat) {r : List Char} (hr : kind.Ends raw.toList r) :
    Token.scanKind true false position (raw.toList ++ r) = .ok (kind, r) := by
  obtain ⟨used, hused, hlocal⟩ := Token.scanKind_local hk (fun _ _ => rfl) h.scanKind_start.2
  rw [List.append_nil] at hused
  subst hused
  exact hlocal position r hr

/-- It starts with a character that is no blank and no equals sign. -/
theorem IsToken.exists_cons {raw : String} {kind : TokenKind} (h : IsToken raw kind)
    (hk : kind.isLeaf = true) : ∃ c more, raw.toList = c :: more ∧ Unicode.isWhitespace c = false ∧
      c ≠ '=' := by
  obtain ⟨hb, hscan⟩ := h.scanKind_start
  cases hraw : raw.toList with
  | nil =>
    rw [hraw] at hscan
    cases hscan
    cases hk
  | cons c more =>
    rw [hraw] at hb hscan
    refine ⟨c, more, rfl, ?_, ?_⟩
    · cases hc : Unicode.isWhitespace c with
      | false => rfl
      | true =>
        rw [List.takeWhile_cons_of_pos hc] at hb
        cases hb
    · rintro rfl
      have hop : Token.readOperator 0 ('=' :: more) = .ok (kind, []) := hscan
      rw [Token.isLeaf_of_readOperator hop] at hk
      cases hk

/-- The literals and names of a source, but for those after a point, are tokens by themselves. -/
theorem Cursor.isToken_of_next {c c' : Cursor} {t : Token} (h : c.next = .ok (t, c'))
    (hk : t.kind.isLeaf = true) (hdot : ∀ s, t.kind = .name s → c.afterDot = false) :
    IsToken t.raw t.kind := by
  obtain ⟨⟨kind, rest⟩, hscan, he⟩ := bind_eq_ok_iff.1 h
  obtain ⟨rfl, rfl⟩ := Prod.mk.inj (Except.ok.inj he)
  dsimp only at hk hdot
  obtain ⟨raw, hraw, hlocal⟩ := Token.scanKind_local hk hdot hscan
  have htake : c.afterBlanks.take (c.afterBlanks.length - rest.length) = raw := by
    rw [hraw, List.length_append, Nat.add_sub_cancel, List.take_left]
  have halone : Token.scanKind true false 0 (String.ofList raw).toList = .ok (kind, []) := by
    have hl := hlocal 0 [] .nil
    rw [List.append_nil] at hl
    rw [String.toList_ofList]
    exact hl
  show IsToken (String.ofList (c.afterBlanks.take (c.afterBlanks.length - rest.length))) kind
  rw [htake]
  refine isToken_of_scanKind (TokenKind.isEof_of_isLeaf hk) ?_ halone
  rw [String.toList_ofList]
  -- what comes after the blanks starts with no blank
  cases hcons : raw with
  | nil => rfl
  | cons d raw' =>
    have hd : Unicode.isWhitespace d = false := by
      have hhead := List.head?_dropWhile_not Unicode.isWhitespace c.rest
      have hdrop : c.rest.dropWhile Unicode.isWhitespace = d :: (raw' ++ rest) := by
        rw [← List.cons_append, ← hcons]
        exact hraw
      rw [hdrop] at hhead
      simpa using hhead
    rw [List.takeWhile_cons_of_neg (by simp [hd])]

/-! ## Strings -/

theorem readEscape_hexDigit {n : Nat} (hn : n < 32) (position : Nat) (cs : List Char) :
    Token.readEscape position
        ('u' :: '0' :: '0' :: Json.hexDigit (n / 16) :: Json.hexDigit (n % 16) :: cs) =
      .ok ([Char.ofNat n], cs) := by
  have hdigits : ∀ n < 32, Token.isHexDigit (Json.hexDigit (n / 16)) = true ∧
      Token.isHexDigit (Json.hexDigit (n % 16)) = true ∧
      Token.digitsValue 16 ['0', '0', Json.hexDigit (n / 16), Json.hexDigit (n % 16)] = n ∧
      Json.isHighUnit n = false ∧ Json.isLowUnit n = false := by decide +kernel
  obtain ⟨hx, hy, hvalue, hhigh, hlow⟩ := hdigits n hn
  have hzero : Token.isHexDigit '0' = true := by decide +kernel
  have hhex : Token.readHex 'u' position 4 []
      ('0' :: '0' :: Json.hexDigit (n / 16) :: Json.hexDigit (n % 16) :: cs) = .ok (n, cs) := by
    simp [Token.readHex, hzero, hx, hy, hvalue]
  have hunit : Token.charOfUnit position n cs = .ok (Char.ofNat n, cs) := by
    rw [Token.charOfUnit, hhigh, hlow]
    rfl
  have hescape := Token.readUnicodeEscape_of_readHex hhex hhigh hunit
  show (Token.readUnicodeEscape position _ >>= fun x => pure ([x.1], x.2)) = _
  rw [hescape]
  rfl

/-- A character that neither ends a string nor starts an escape stands for itself. -/
theorem readString_char {quote c : Char} {start position : Nat} {cs text rest : List Char}
    (hq : c ≠ quote) (hs : c ≠ '\\') (hl : ¬ (c = '\n' ∨ c = '\r'))
    (h : ∀ position, Token.readString quote start position cs = .ok (text, rest)) :
    Token.readString quote start position (c :: cs) = .ok (c :: text, rest) := by
  rw [Token.readString, if_neg hq, if_neg hl, if_neg hs, h]
  rfl

/-- The text of a string goes on after an escape. -/
theorem readString_escape {quote : Char} {start position : Nat} {es cs out text rest : List Char}
    (hq : quote ≠ '\\') (he : ∀ position, Token.readEscape position (es ++ cs) = .ok (out, cs))
    (h : ∀ position, Token.readString quote start position cs = .ok (text, rest)) :
    Token.readString quote start position ('\\' :: es ++ cs) = .ok (out ++ text, rest) := by
  rw [List.cons_append, Token.readString, if_neg hq.symm, if_neg (by decide), if_pos rfl]
  split
  · rename_i he'
    rw [he] at he'
    cases he'
  · rename_i he'
    rw [he] at he'
    obtain ⟨rfl, rfl⟩ := Prod.mk.inj (Except.ok.inj he')
    rw [h]
    rfl

/-- A quoted character is read as that character. -/
theorem readString_quoteChar {start position : Nat} {c : Char} {cs text rest : List Char}
    (h : ∀ position, Token.readString '\x22' start position cs = .ok (text, rest)) :
    Token.readString '\x22' start position (Json.quoteChar c ++ cs) = .ok (c :: text, rest) := by
  have escaped : ∀ {es : List Char}, (∀ position, Token.readEscape position (es ++ cs) = .ok ([c], cs)) →
      Token.readString '\x22' start position ('\\' :: es ++ cs) = .ok (c :: text, rest) :=
    fun he => readString_escape (by decide) he h
  unfold Json.quoteChar
  -- a backslash and one more character
  iterate 7
    split
    · rename_i hc
      subst hc
      exact escaped fun _ => rfl
  split
  · rename_i hc
    refine escaped fun position => ?_
    have he := readEscape_hexDigit hc position cs
    rwa [Char.ofNat_toNat] at he
  · rename_i hend hslash hline hreturn _ _ _ _
    exact readString_char hend hslash (not_or.2 ⟨hline, hreturn⟩) h

theorem readString_quoteChars (start position : Nat) (cs rest : List Char) :
    Token.readString '\x22' start position (cs.flatMap Json.quoteChar ++ '\x22' :: rest) =
      .ok (cs, rest) := by
  induction cs generalizing position with
  | nil =>
    rw [List.flatMap_nil, List.nil_append, Token.readString, if_pos rfl]
  | cons c cs ih =>
    rw [List.flatMap_cons, List.append_assoc]
    exact readString_quoteChar fun position => ih position

/-- The quoted text of a string. -/
theorem isToken_quote (s : String) : IsToken (Json.quote s) (.string s) := by
  have hquote : (Json.quote s).toList = '\x22' :: (s.toList.flatMap Json.quoteChar ++ ['\x22']) := by
    rw [Json.quote, String.toList_ofList]
    rfl
  refine isToken_of_scanKind rfl (by rw [hquote]; rfl) ?_
  rw [hquote]
  show (Token.readString '\x22' 0 1 (s.toList.flatMap Json.quoteChar ++ ['\x22']) >>= fun x =>
    pure (TokenKind.string (String.ofList x.1), x.2)) = _
  rw [readString_quoteChars]
  show Except.ok (TokenKind.string (String.ofList s.toList), []) = _
  rw [String.ofList_toList]

/-! ## Names with a dollar sign -/

/-- After a dollar sign a word is never reserved. -/
theorem kindOfWord_dollar (position : Nat) {word : String} {cs : List Char}
    (h : word.toList = '$' :: cs) : Token.kindOfWord false position word = .ok (.name word) := by
  have ne : ∀ w : String, w.toList.head? ≠ some '$' → w ≠ word := by
    rintro w hw rfl
    rw [h] at hw
    exact hw rfl
  have hatom : Atom.ofWord? word = none :=
    List.find?_eq_none.2 fun a _ he => ne _ (by cases a <;> decide) (beq_iff_eq.1 he)
  have hop : Operator.ofSpelling? word = none := by
    refine List.find?_eq_none.2 fun op _ he => ne _ ?_ (beq_iff_eq.1 he)
    cases op with
    | binary op => cases op <;> decide
    | _ => decide
  have hlist : ∀ ws : List String, (∀ w ∈ ws, w.toList.head? ≠ some '$') → word ∉ ws :=
    fun ws hws hm => ne word (hws word hm) rfl
  rw [Token.kindOfWord, if_neg Bool.false_ne_true, hatom, hop]
  dsimp only
  rw [if_neg (hlist _ (by decide)), if_neg (hlist _ (by decide))]

/-- A dollar sign and a name. -/
theorem isToken_dollar {name : String} (h : name.toList.all isIdentifierPart = true) :
    IsToken ("$" ++ name) (.name ("$" ++ name)) := by
  have hl : ("$" ++ name).toList = '$' :: name.toList := by
    rw [String.toList_append]
    rfl
  have hall : ∀ c ∈ '$' :: name.toList, isIdentifierPart c = true := by
    rw [List.forall_mem_cons]
    exact ⟨rfl, List.all_eq_true.1 h⟩
  obtain ⟨htake, hdrop⟩ := Token.span_identifierPart (r := []) hall fun _ hc => nomatch hc
  rw [List.append_nil] at htake hdrop
  refine isToken_of_scanKind rfl (by rw [hl]; rfl) ?_
  rw [hl]
  show Token.readWord false 0 ('$' :: name.toList) = _
  rw [Token.readWord, htake, hdrop, ← hl, String.ofList_toList, kindOfWord_dollar 0 hl]
  rfl

end DataBinding
