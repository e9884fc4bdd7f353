import DataBinding.Proofs.Printing.Leaf

/-!
# The pieces of a text

A printed text is read piece by piece. A piece is read as its own tokens if what follows it does not
continue its last token, and it leaves the reader in a place where a value may come next or not.

Results:

* `Lexes.append`: pieces in a row.
* `lexes_leaf`, `lexes_punct`, `lexes_binary`, `lexes_unary`, `lexes_member`: the pieces of expressions.
* `Lexes.tokenize_eq`: a whole text.
-/

namespace DataBinding

namespace Cursor

/-- The tokens from one place up to another one. -/
def Takes (c : Cursor) (ts : List Token) (c' : Cursor) : Prop :=
  c.scan = (ts ++ c'.scan.1, c'.scan.2)

theorem Takes.trans {c₁ c₂ c₃ : Cursor} {ts us : List Token} (h : c₁.Takes ts c₂)
    (h' : c₂.Takes us c₃) : c₁.Takes (ts ++ us) c₃ := by
  unfold Takes at *
  rw [h, h', List.append_assoc]

theorem takes_of_next {c c' : Cursor} {t : Token} (h : c.next = .ok (t, c'))
    (ht : t.kind.isEof = false) : c.Takes [t] c' := scan_cons h ht rfl

/-- A step skips blanks. -/
theorem next_blanks {bs : List Char} (hb : ∀ b ∈ bs, Unicode.isWhitespace b = true) (r : List Char)
    (p : Nat) (v d : Bool) :
    (⟨bs ++ r, p, v, d⟩ : Cursor).next = (⟨r, p + bs.length, v, d⟩ : Cursor).next := by
  unfold next after tokenStart blanks afterBlanks
  dsimp only
  rw [List.takeWhile_append_of_pos hb, List.dropWhile_append_of_pos hb, List.length_append,
    Nat.add_assoc]

/-- Blanks before a token are skipped. -/
theorem scan_blanks {bs : List Char} (hb : ∀ b ∈ bs, Unicode.isWhitespace b = true) (r : List Char)
    (p : Nat) (v d : Bool) :
    (⟨bs ++ r, p, v, d⟩ : Cursor).scan = (⟨r, p + bs.length, v, d⟩ : Cursor).scan := by
  rw [scan_eq, scan_eq, next_blanks hb]

/-- A step over a token that stands ahead without blanks. -/
theorem next_of_scanKind {ch : Char} {x r : List Char} {p : Nat} {v d : Bool} {kind : TokenKind}
    (hc : Unicode.isWhitespace ch = false)
    (h : Token.scanKind v d p (ch :: x ++ r) = .ok (kind, r)) :
    (⟨ch :: x ++ r, p, v, d⟩ : Cursor).next = .ok (⟨kind, String.ofList (ch :: x), p⟩,
      ⟨r, p + (ch :: x).length, kind.expectsValue, kind.isPunct .dot⟩) := by
  have hb : ¬ Unicode.isWhitespace ch = true := by simp [hc]
  have hlen : (ch :: x ++ r).length - r.length = (ch :: x).length := by
    rw [List.length_append, Nat.add_sub_cancel]
  unfold next after tokenStart blanks afterBlanks
  dsimp only
  rw [List.cons_append, List.takeWhile_cons_of_neg hb, List.dropWhile_cons_of_neg hb,
    ← List.cons_append, List.length_nil, Nat.add_zero, h]
  simp only [bind, Except.bind, pure, Except.pure]
  rw [hlen, List.take_left]

end Cursor

/-- Before `r` the characters `x` are tokens of which `P` holds. A value may come next before them if
    `v` says so, and after them if `v'` does. -/
def Lexes (v : Bool) (x r : List Char) (v' : Bool) (P : List Token → Prop) : Prop :=
  ∀ p, ∃ ts p', Cursor.Takes ⟨x ++ r, p, v, false⟩ ts ⟨r, p', v', false⟩ ∧ P ts

section

variable {v v' v'' : Bool} {x y r : List Char} {P Q R : List Token → Prop}

theorem Lexes.imp (h : Lexes v x r v' P) (hp : ∀ ts, P ts → Q ts) : Lexes v x r v' Q := by
  intro p
  obtain ⟨ts, p', ht, hts⟩ := h p
  exact ⟨ts, p', ht, hp ts hts⟩

/-- Pieces in a row. -/
theorem Lexes.append (hx : Lexes v x (y ++ r) v' P) (hy : Lexes v' y r v'' Q)
    (h : ∀ us ws, P us → Q ws → R (us ++ ws)) : Lexes v (x ++ y) r v'' R := by
  intro p
  obtain ⟨us, p₁, hu, hP⟩ := hx p
  obtain ⟨ws, p₂, hw, hQ⟩ := hy p₁
  rw [List.append_assoc]
  exact ⟨us ++ ws, p₂, hu.trans hw, h us ws hP hQ⟩

theorem lexes_nil : Lexes v [] r v fun ts => ts = [] :=
  fun p => ⟨[], p, rfl, rfl⟩

theorem lexes_blank : Lexes v [' '] r v fun ts => ts = [] :=
  fun p => ⟨[], p + 1, Cursor.scan_blanks (List.forall_mem_singleton.2 rfl) r p v false, rfl⟩

/-- A piece that is one token. -/
theorem lexes_of_scanKind {c : Char} (kind : TokenKind) (hc : Unicode.isWhitespace c = false)
    (hk : kind.isEof = false) (hd : kind.isPunct .dot = false)
    (h : ∀ p, Token.scanKind v false p (c :: x ++ r) = .ok (kind, r)) :
    Lexes v (c :: x) r kind.expectsValue fun ts => ∃ t, ts = [t] ∧ t.Is kind (String.ofList (c :: x)) := by
  intro p
  have hnext := Cursor.next_of_scanKind hc (h p)
  rw [hd] at hnext
  exact ⟨_, _, Cursor.takes_of_next hnext hk, _, rfl, rfl, rfl⟩

/-! ## Literals and names -/

/-- A text that is one literal or name. -/
theorem lexes_leaf {raw : String} {kind : TokenKind} (h : IsToken raw kind)
    (hk : kind.isLeaf = true) (hr : kind.Ends raw.toList r) :
    Lexes true raw.toList r false fun ts => ∃ t, ts = [t] ∧ t.Is kind raw := by
  obtain ⟨c, more, hraw, hc, -⟩ := h.exists_cons hk
  have hv : kind.expectsValue = false := by cases kind <;> first | rfl | cases hk
  have hd : kind.isPunct .dot = false := by cases kind <;> first | rfl | cases hk
  have hlex := lexes_of_scanKind (x := more) (r := r) kind hc (TokenKind.isEof_of_isLeaf hk) hd
    fun p => hraw ▸ h.scanKind hk p hr
  rw [← hraw, hv, String.ofList_toList] at hlex
  exact hlex

/-! ## Marks and operators -/

/-- A mark other than the point. -/
theorem lexes_punct (mark : Punct) (h : mark ≠ .dot) :
    Lexes v [mark.char] r mark.expectsValue fun ts => ∃ t, ts = [t] ∧ t.kind = .punct mark := by
  refine (lexes_of_scanKind (.punct mark) ?_ rfl ?_ ?_).imp fun ts ⟨t, ht, hk⟩ => ⟨t, ht, hk.1⟩
  · cases mark <;> rfl
  · cases mark <;> first | rfl | exact absurd rfl h
  · intro p
    cases mark <;> first | rfl | exact absurd rfl h

theorem scanKind_binary (op : BinaryOp) : ∃ c more, op.spelling.toList = c :: more ∧
    Unicode.isWhitespace c = false ∧ ∀ p r, Token.scanKind false false p (c :: more ++ ' ' :: r) =
      .ok (.operator (.binary op), ' ' :: r) := by
  cases op <;> exact ⟨_, _, rfl, rfl, fun _ _ => rfl⟩

/-- A binary operator before a blank. -/
theorem lexes_binary (op : BinaryOp) : Lexes false op.spelling.toList (' ' :: r) true fun ts =>
    ∃ t, ts = [t] ∧ t.kind = .operator (.binary op) := by
  obtain ⟨c, more, hop, hc, hscan⟩ := scanKind_binary op
  rw [hop]
  exact (lexes_of_scanKind (.operator (.binary op)) hc rfl rfl fun p => hscan p r).imp
    fun ts ⟨t, ht, hk⟩ => ⟨t, ht, hk.1⟩

/-- The mark of a conditional before a blank. -/
theorem lexes_question : Lexes false ['?'] (' ' :: r) true fun ts =>
    ∃ t, ts = [t] ∧ t.kind = .operator .question := by
  refine (lexes_of_scanKind (.operator .question) rfl rfl rfl fun p => ?_).imp
    fun ts ⟨t, ht, hk⟩ => ⟨t, ht, hk.1⟩
  rfl

/-- The operator before these characters is not a longer one. -/
def UnaryOp.EndsBefore (op : UnaryOp) (r : List Char) : Prop :=
  ∃ c more, r = c :: more ∧ c ≠ '=' ∧ (op = .negate → c ≠ '-') ∧ (op = .plus → c ≠ '+') ∧
    (op.isWord = true → c = ' ')

/-- An operator of one character that the next one does not make longer. -/
theorem readOperator_single {o d : Char} {more : List Char} (ho : Token.isOperatorChar o = true)
    (hd : Token.operatorSpellings.contains [o, d] = false) (p : Nat) :
    Token.readOperator p (o :: d :: more) =
      (Token.kindOfOperator p (String.ofList [o])).map fun kind => (kind, d :: more) := by
  have hextend : Token.extendOperator [] (o :: d :: more) = ([o], d :: more) := by
    unfold Token.isOperatorChar at ho
    rw [Token.extendOperator, List.nil_append, if_pos ho, Token.extendOperator,
      List.singleton_append, if_neg (Bool.eq_false_iff.1 hd)]
  rw [Token.readOperator, hextend]
  rfl

theorem scanKind_unary {op : UnaryOp} (h : op.EndsBefore r) : ∃ c more, op.spelling.toList = c :: more ∧
    Unicode.isWhitespace c = false ∧ ∀ p, Token.scanKind true false p (c :: more ++ r) =
      .ok (.operator op.operator, r) := by
  obtain ⟨d, more, rfl, heq, hnegate, hplus, hword⟩ := h
  cases op with
  | typeof | void =>
    obtain rfl := hword rfl
    exact ⟨_, _, rfl, rfl, fun _ => rfl⟩
  | not =>
    have hd : Token.operatorSpellings.contains ['!', d] = false := by
      simp [Token.operatorSpellings, heq]
    exact ⟨_, _, rfl, rfl, fun p => readOperator_single rfl hd p⟩
  | negate =>
    have hd : Token.operatorSpellings.contains ['-', d] = false := by
      simp [Token.operatorSpellings, heq, hnegate rfl]
    exact ⟨_, _, rfl, rfl, fun p => readOperator_single rfl hd p⟩
  | plus =>
    have hd : Token.operatorSpellings.contains ['+', d] = false := by
      simp [Token.operatorSpellings, heq, hplus rfl]
    exact ⟨_, _, rfl, rfl, fun p => readOperator_single rfl hd p⟩

/-- A unary operator. -/
theorem lexes_unary {op : UnaryOp} (h : op.EndsBefore r) :
    Lexes true op.spelling.toList r true fun ts => ∃ t, ts = [t] ∧ t.kind = .operator op.operator := by
  obtain ⟨c, more, hop, hc, hscan⟩ := scanKind_unary h
  rw [hop]
  exact (lexes_of_scanKind (.operator op.operator) hc rfl rfl hscan).imp
    fun ts ⟨t, ht, hk⟩ => ⟨t, ht, hk.1⟩

/-- The access to a member by its name. -/
theorem lexes_member {name : String} (h : isIdentifier name = true)
    (hr : ∀ c, r.head? = some c → isStop c = true ∨ c = '.') :
    Lexes false ('.' :: name.toList) r false fun ts =>
      ∃ dot t, ts = [dot, t] ∧ dot.kind = .punct .dot ∧ t.kind = .name name := by
  intro p
  unfold isIdentifier at h
  split at h
  · cases h
  rename_i c more hname
  rw [Bool.and_eq_true, List.all_eq_true] at h
  obtain ⟨hstart, hparts⟩ := h
  have hall : ∀ d ∈ c :: more, isIdentifierPart d = true := by
    rw [List.forall_mem_cons]
    exact ⟨Token.isIdentifierPart_of_start hstart, hparts⟩
  obtain ⟨htake, hdrop⟩ := Token.span_identifierPart hall hr
  have hdigit := (Token.isIdentifierStart_ne hstart).1
  have hdot : Token.scanKind false false p (['.'] ++ (c :: more ++ r)) =
      .ok (.punct .dot, c :: more ++ r) := by
    show Token.scanKind false false p ('.' :: c :: (more ++ r)) = _
    rw [Token.scanKind, if_neg ?_, if_neg (by decide), if_neg (by simp)]
    · rfl
    · simp [hdigit]
  have hword : ∀ p, Token.scanKind true true p (c :: more ++ r) = .ok (.name name, r) := by
    intro p
    rw [List.cons_append, Token.scanKind_of_isIdentifierStart hstart, Token.readWord, ← List.cons_append,
      htake, hdrop, ← hname, String.ofList_toList]
    rfl
  have hblank := Token.isWhitespace_of_isIdentifierPart (Token.isIdentifierPart_of_start hstart)
  have h₁ := Cursor.takes_of_next (Cursor.next_of_scanKind rfl hdot) rfl
  have h₂ := Cursor.takes_of_next (Cursor.next_of_scanKind hblank (hword (p + 1))) rfl
  rw [hname]
  exact ⟨_, _, h₁.trans h₂, _, _, rfl, rfl, rfl⟩

end

/-! ## Whole texts -/

/-- The tokens of a whole text. -/
theorem Lexes.tokenize_eq {source : String} {v : Bool} {P : List Token → Prop}
    (h : Lexes true source.toList [] v P) :
    ∃ ts last, tokenize source = .ok (ts ++ [last]) ∧ last.kind = .eof ∧ P ts := by
  obtain ⟨ts, p, ht, hP⟩ := h 0
  have hlast : (⟨[], p, v, false⟩ : Cursor).next = .ok (⟨.eof, "", p⟩, _) := rfl
  have hscan : (Cursor.start source).scan = (ts ++ [⟨.eof, "", p⟩], none) := by
    rw [Cursor.Takes, List.append_nil, Cursor.scan_last hlast rfl] at ht
    exact ht
  exact ⟨ts, _, tokenize_eq_ok_iff.2 hscan, rfl, hP⟩

end DataBinding
