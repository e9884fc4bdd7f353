import DataBinding.Proofs.Printing.Leaf

/-!
# The spellings of strings

Between its quotes a string is spelled piece by piece. A piece is a character for itself, an escape of
two to twelve characters, or a backslash before the end of a line, which stands for nothing. Whatever
pieces come one after another, each is read to its own end, so the string is what its pieces mean in
their order.

A digit from `0` to `7` behind a backslash always starts an octal escape, so those are the only
characters that a backslash never makes stand for themselves without being the mark of a piece.

Results:

* `readString_piece`: one piece is read, and the string goes on behind it.
* `readString_pieces`: so are all pieces up to the quote that closes the string.
* `tokenize_quoted`: the tokens of the pieces between two quotes.
-/

namespace DataBinding

/-! ## Pieces -/

/-- The quotes around a string. -/
inductive Quote where
  | single
  | double

/-- The character of a quote. -/
def Quote.char : Quote → Char
  | .single => '\x27'
  | .double => '\x22'

/-- A hexadecimal digit. From ten on it is a small or a capital letter. -/
structure HexDigit where
  value : Fin 16
  capital : Bool

/-- The character of a digit. -/
def HexDigit.char (d : HexDigit) : Char :=
  (if d.capital then "0123456789ABCDEF" else "0123456789abcdef").toList.getD d.value '0'

/-- The number that hexadecimal digits write. -/
def HexDigit.number (ds : List HexDigit) : Nat := ds.foldl (fun n d => 16 * n + d.value) 0

/-- Four hexadecimal digits. -/
structure HexUnit where
  digits : List HexDigit
  length_eq : digits.length = 4

/-- The number that the four digits write. -/
def HexUnit.number (u : HexUnit) : Nat := HexDigit.number u.digits

/-- The characters of the four digits behind `\u`. -/
def HexUnit.spelling (u : HexUnit) : List Char := '\\' :: 'u' :: u.digits.map HexDigit.char

/-- The character of an octal digit. -/
def octalChar (d : Fin 8) : Char := "01234567".toList.getD d '0'

/-- The control characters with a letter of their own. -/
inductive ControlEscape where
  | newline
  | carriageReturn
  | tab
  | backspace
  | verticalTab
  | formFeed

namespace ControlEscape

/-- The letter behind the backslash. -/
def letter : ControlEscape → Char
  | newline => 'n'
  | carriageReturn => 'r'
  | tab => 't'
  | backspace => 'b'
  | verticalTab => 'v'
  | formFeed => 'f'

/-- The character that the escape stands for. -/
def char : ControlEscape → Char
  | newline => '\n'
  | carriageReturn => '\r'
  | tab => '\t'
  | backspace => '\x08'
  | verticalTab => '\x0b'
  | formFeed => '\x0c'

end ControlEscape

/-- The ends of a line. -/
inductive LineEnd where
  | lf
  | cr
  | crlf

/-- The characters at the end of a line. -/
def LineEnd.chars : LineEnd → List Char
  | lf => ['\n']
  | cr => ['\r']
  | crlf => ['\r', '\n']

/-- The characters that mean something else behind a backslash. -/
def escapeMarks : List Char :=
  ['n', 'r', 't', 'b', 'v', 'f', 'x', 'u', '\n', '\r', '0', '1', '2', '3', '4', '5', '6', '7']

/-- A piece of a string between two quotes. -/
inductive StringPiece (q : Quote) where
  /-- A character for itself -/
  | plain (c : Char) (h : c ∉ [q.char, '\\', '\n', '\r'])
  | control (e : ControlEscape)
  /-- Two hexadecimal digits behind `\x` -/
  | byte (a b : HexDigit)
  /-- Four hexadecimal digits behind `\u`, which are no half of a pair -/
  | unit (u : HexUnit) (h : u.number < 0xD800 ∨ 0xDFFF < u.number)
  /-- The two halves of a pair, each behind `\u` -/
  | pair (high low : HexUnit) (hh : 0xD800 ≤ high.number ∧ high.number ≤ 0xDBFF)
      (hl : 0xDC00 ≤ low.number ∧ low.number ≤ 0xDFFF)
  /-- Three octal digits behind the backslash -/
  | octal (a b c : Fin 8) (h : a ≤ 3)
  /-- Two octal digits, where the first one allows no third -/
  | shortOctal (a b : Fin 8) (h : 4 ≤ a)
  /-- A backslash before a character for itself -/
  | itself (c : Char) (h : c ∉ escapeMarks)
  /-- A backslash before the end of a line -/
  | continuation (e : LineEnd)

namespace StringPiece

variable {q : Quote}

/-- The characters of a piece. -/
def spelling : StringPiece q → List Char
  | plain c _ => [c]
  | control e => ['\\', e.letter]
  | byte a b => ['\\', 'x', a.char, b.char]
  | unit u _ => u.spelling
  | pair high low _ _ => high.spelling ++ low.spelling
  | octal a b c _ => ['\\', octalChar a, octalChar b, octalChar c]
  | shortOctal a b _ => ['\\', octalChar a, octalChar b]
  | itself c _ => ['\\', c]
  | continuation e => '\\' :: e.chars

/-- The characters that a piece stands for. -/
def meaning : StringPiece q → List Char
  | plain c _ => [c]
  | control e => [e.char]
  | byte a b => [Char.ofNat (HexDigit.number [a, b])]
  | unit u _ => [Char.ofNat u.number]
  | pair high low _ _ =>
    [Char.ofNat (0x10000 + (high.number - 0xD800) * 0x400 + (low.number - 0xDC00))]
  | octal a b c _ => [Char.ofNat (8 * (8 * a + b) + c)]
  | shortOctal a b _ => [Char.ofNat (8 * a + b)]
  | itself c _ => [c]
  | continuation _ => []

/-- The text of the pieces between their quotes. -/
def quoted (ps : List (StringPiece q)) : String :=
  String.ofList (q.char :: (ps.flatMap spelling ++ [q.char]))

/-- No piece starts a line, and neither does the quote behind the pieces. -/
theorem head?_spellings (ps : List (StringPiece q)) (rest : List Char) :
    (ps.flatMap spelling ++ q.char :: rest).head? ≠ some '\n' := by
  cases ps with
  | nil => cases q <;> simp [Quote.char]
  | cons p ps =>
    cases p with
    | plain c h =>
      rintro ⟨⟩
      exact h (by simp)
    | unit u h => simp [spelling, HexUnit.spelling]
    | pair high low hh hl => simp [spelling, HexUnit.spelling]
    | _ => simp [spelling]

end StringPiece

/-! ## Digits -/

theorem HexDigit.digitValue?_char (d : HexDigit) :
    Decimal.digitValue? 16 d.char = some d.value.val := by
  have h : ∀ (value : Fin 16) (capital : Bool),
      Decimal.digitValue? 16 (HexDigit.char ⟨value, capital⟩) = some value.val := by decide +kernel
  exact h d.value d.capital

theorem octalChar_spec (d : Fin 8) : Decimal.digitValue? 8 (octalChar d) = some d.val ∧
    Token.isOctalDigit (octalChar d) = true ∧ (octalChar d ≤ '3' ↔ d ≤ 3) := by
  revert d
  decide +kernel

theorem mem_escapeMarks_of_isOctalDigit {c : Char} (h : Token.isOctalDigit c = true) :
    c ∈ escapeMarks := by
  have hc : '0'.toNat ≤ c.toNat ∧ c.toNat ≤ '7'.toNat := of_decide_eq_true h
  have hall : ∀ n ≤ '7'.toNat, '0'.toNat ≤ n → Char.ofNat n ∈ escapeMarks := by decide +kernel
  have hmem := hall c.toNat hc.2 hc.1
  rwa [Char.ofNat_toNat] at hmem

theorem digitsValue_map_char (ds : List HexDigit) :
    Token.digitsValue 16 (ds.map HexDigit.char) = HexDigit.number ds := by
  rw [Token.digitsValue, HexDigit.number, List.foldl_map]
  simp only [HexDigit.digitValue?_char, Option.getD_some]

/-- As many digits as are asked for are read, and nothing behind them. -/
theorem readHex_append (marker : Char) (position : Nat) (front : List Char) (ds : List HexDigit)
    (cs : List Char) : Token.readHex marker position ds.length front (ds.map HexDigit.char ++ cs) =
      .ok (Token.digitsValue 16 (front ++ ds.map HexDigit.char), cs) := by
  induction ds generalizing front with
  | nil => rw [List.map_nil, List.append_nil]; rfl
  | cons d ds ih =>
    have hd : Token.isHexDigit d.char = true := by rw [Token.isHexDigit, d.digitValue?_char]; rfl
    rw [List.map_cons, List.cons_append, List.length_cons, Token.readHex, if_pos hd, ih,
      List.append_assoc, List.singleton_append]

theorem readHex_unit (u : HexUnit) (position : Nat) (cs : List Char) :
    Token.readHex 'u' position 4 [] (u.digits.map HexDigit.char ++ cs) = .ok (u.number, cs) := by
  have h := readHex_append 'u' position [] u.digits cs
  rwa [u.length_eq, List.nil_append, digitsValue_map_char] at h

/-! ## Escapes -/

namespace Token

variable (position : Nat) (cs : List Char)

theorem readEscape_control (e : ControlEscape) :
    readEscape position (e.letter :: cs) = .ok ([e.char], cs) := by
  cases e <;> rfl

theorem readEscape_byte (a b : HexDigit) :
    readEscape position ('x' :: a.char :: b.char :: cs) =
      .ok ([Char.ofNat (HexDigit.number [a, b])], cs) := by
  have h := readHex_append 'x' position [] [a, b] cs
  rw [List.nil_append, digitsValue_map_char] at h
  show (readHex 'x' position 2 [] (a.char :: b.char :: cs) >>= fun x => pure ([Char.ofNat x.1], x.2)) = _
  rw [show readHex 'x' position 2 [] (a.char :: b.char :: cs) = _ from h]
  rfl

/-- What stands behind `\u` is read as the one character of that escape. -/
theorem readEscape_of_readUnicodeEscape {position : Nat} {es cs : List Char} {c : Char}
    (h : readUnicodeEscape position es = .ok (c, cs)) :
    readEscape position ('u' :: es) = .ok ([c], cs) := by
  show (readUnicodeEscape position es >>= fun x => pure ([x.1], x.2)) = _
  rw [h]
  rfl

theorem readEscape_unit {u : HexUnit} (h : u.number < 0xD800 ∨ 0xDFFF < u.number) :
    readEscape position ('u' :: (u.digits.map HexDigit.char ++ cs)) =
      .ok ([Char.ofNat u.number], cs) := by
  have hhigh : Json.isHighUnit u.number = false := by
    rw [Json.isHighUnit, decide_eq_false_iff_not]
    omega
  have hlow : Json.isLowUnit u.number = false := by
    rw [Json.isLowUnit, decide_eq_false_iff_not]
    omega
  have hunit : charOfUnit position u.number cs = .ok (Char.ofNat u.number, cs) := by
    rw [charOfUnit, hhigh, hlow]
    rfl
  exact readEscape_of_readUnicodeEscape
    (readUnicodeEscape_of_readHex (readHex_unit u position cs) hhigh hunit)

theorem readEscape_pair {high low : HexUnit} (hh : 0xD800 ≤ high.number ∧ high.number ≤ 0xDBFF)
    (hl : 0xDC00 ≤ low.number ∧ low.number ≤ 0xDFFF) :
    readEscape position ('u' :: high.digits.map HexDigit.char ++ low.spelling ++ cs) =
      .ok ([Char.ofNat (0x10000 + (high.number - 0xD800) * 0x400 + (low.number - 0xDC00))], cs) := by
  have hhigh : Json.isHighUnit high.number = true := decide_eq_true hh
  have hlow : Json.isLowUnit low.number = true := decide_eq_true hl
  rw [List.append_assoc, List.cons_append]
  refine readEscape_of_readUnicodeEscape ?_
  rw [readUnicodeEscape, readHex_unit]
  simp only [bind, Except.bind, HexUnit.spelling, List.cons_append, if_pos hhigh, readHex_unit,
    if_pos hlow, pure, Except.pure]
  rfl

/-- An octal digit starts an octal escape, which is as long as its digits go on. -/
theorem readEscape_of_isOctalDigit {c : Char} (h : isOctalDigit c = true) :
    readEscape position (c :: cs) = .ok ([Char.ofNat (digitsValue 8 (octalRun (c :: cs)))],
      (c :: cs).drop (octalRun (c :: cs)).length) := by
  unfold readEscape
  exact if_pos h

theorem readEscape_octal {a b c : Fin 8} (h : a ≤ 3) :
    readEscape position (octalChar a :: octalChar b :: octalChar c :: cs) =
      .ok ([Char.ofNat (8 * (8 * a + b) + c)], cs) := by
  obtain ⟨va, oa, la⟩ := octalChar_spec a
  obtain ⟨vb, ob, -⟩ := octalChar_spec b
  obtain ⟨vc, oc, -⟩ := octalChar_spec c
  have hrun : octalRun (octalChar a :: octalChar b :: octalChar c :: cs) =
      [octalChar a, octalChar b, octalChar c] := by
    simp [octalRun, la.2 h, oa, ob, oc]
  rw [readEscape_of_isOctalDigit _ _ oa, hrun]
  simp [digitsValue, va, vb, vc]

theorem readEscape_shortOctal {a b : Fin 8} (h : 4 ≤ a) :
    readEscape position (octalChar a :: octalChar b :: cs) =
      .ok ([Char.ofNat (8 * a + b)], cs) := by
  obtain ⟨va, oa, la⟩ := octalChar_spec a
  obtain ⟨vb, ob, -⟩ := octalChar_spec b
  have ha : ¬ octalChar a ≤ '3' := fun hle => absurd (la.1 hle) (by omega)
  have hrun : octalRun (octalChar a :: octalChar b :: cs) = [octalChar a, octalChar b] := by
    simp [octalRun, ha, oa, ob]
  rw [readEscape_of_isOctalDigit _ _ oa, hrun]
  simp [digitsValue, va, vb]

theorem readEscape_itself {c : Char} (h : c ∉ escapeMarks) :
    readEscape position (c :: cs) = .ok ([c], cs) := by
  have hoctal : ¬ isOctalDigit c = true := fun hc => h (mem_escapeMarks_of_isOctalDigit hc)
  simp only [escapeMarks, List.mem_cons, List.not_mem_nil, or_false, not_or] at h
  obtain ⟨hn, hr, ht, hb, hv, hf, hx, hu, hlf, hcr, -⟩ := h
  have hletter : letterEscape? c = none := by
    simp [letterEscape?, List.lookup_cons, beq_eq_false_iff_ne.2, hn, hr, ht, hb, hv, hf]
  unfold readEscape
  simp [hoctal, hletter, hx, hu, hlf, hcr]

/-- A carriage return takes a line feed behind it along, so none may follow that belongs to another
    piece. -/
theorem readEscape_lineEnd {cs : List Char} (h : cs.head? ≠ some '\n') (e : LineEnd) :
    readEscape position (e.chars ++ cs) = .ok ([], cs) := by
  cases e with
  | lf => rfl
  | crlf => rfl
  | cr =>
    cases cs with
    | nil => rfl
    | cons c cs =>
      have hc : c ≠ '\n' := fun hc => h (hc ▸ rfl)
      simp [LineEnd.chars, readEscape, isOctalDigit, letterEscape?, List.lookup_cons, hc]

end Token

/-! ## Strings -/

namespace StringPiece

variable {q : Quote}

/-- One piece is read to its end, and the text goes on behind it. -/
theorem readString_piece (p : StringPiece q) {start position : Nat} {cs text rest : List Char}
    (hcs : cs.head? ≠ some '\n')
    (h : ∀ position, Token.readString q.char start position cs = .ok (text, rest)) :
    Token.readString q.char start position (p.spelling ++ cs) = .ok (p.meaning ++ text, rest) := by
  have hq : q.char ≠ '\\' := by cases q <;> decide
  cases p with
  | plain c hc =>
    simp only [List.mem_cons, List.not_mem_nil, or_false, not_or] at hc
    exact readString_char hc.1 hc.2.1 (not_or.2 hc.2.2) h
  | control e => exact readString_escape hq (fun p => Token.readEscape_control p cs e) h
  | byte a b => exact readString_escape hq (fun p => Token.readEscape_byte p cs a b) h
  | unit u hu => exact readString_escape hq (fun p => Token.readEscape_unit p cs hu) h
  | pair high low hh hl => exact readString_escape hq (fun p => Token.readEscape_pair p cs hh hl) h
  | octal a b c ha => exact readString_escape hq (fun p => Token.readEscape_octal p cs ha) h
  | shortOctal a b ha => exact readString_escape hq (fun p => Token.readEscape_shortOctal p cs ha) h
  | itself c hc => exact readString_escape hq (fun p => Token.readEscape_itself p cs hc) h
  | continuation e => exact readString_escape hq (fun p => Token.readEscape_lineEnd p hcs e) h

/-- All pieces are read, up to the quote that closes the string. -/
theorem readString_pieces (ps : List (StringPiece q)) (start position : Nat) (rest : List Char) :
    Token.readString q.char start position (ps.flatMap spelling ++ q.char :: rest) =
      .ok (ps.flatMap meaning, rest) := by
  induction ps generalizing position with
  | nil => rw [List.flatMap_nil, List.nil_append, Token.readString, if_pos rfl]; rfl
  | cons p ps ih =>
    rw [List.flatMap_cons, List.flatMap_cons, List.append_assoc]
    exact p.readString_piece (head?_spellings ps rest) ih

/-- The pieces between two quotes are one string, which is what they mean in their order. -/
theorem tokenize_quoted (ps : List (StringPiece q)) : tokenize (quoted ps) =
    .ok [⟨.string (String.ofList (ps.flatMap meaning)), quoted ps, 0⟩,
      ⟨.eof, "", (quoted ps).length⟩] := by
  have hlist : (quoted ps).toList = q.char :: (ps.flatMap spelling ++ [q.char]) := String.toList_ofList
  have hlength : (quoted ps).toList.length = (quoted ps).length := String.length_toList
  rw [← hlength]
  refine tokenize_of_scanKind rfl (by rw [hlist]; cases q <;> rfl) ?_
  have hscan : Token.scanKind true false 0 (quoted ps).toList =
      (Token.readString q.char 0 1 (ps.flatMap spelling ++ [q.char]) >>= fun x =>
        pure (TokenKind.string (String.ofList x.1), x.2)) := by
    rw [hlist]
    cases q <;> rfl
  rw [hscan, readString_pieces]
  rfl

/-- Behind a backslash a four is no four but an octal escape of one digit. -/
theorem tokenize_octal_four : tokenize "\"\\4\"" = .ok [⟨.string "\x04", "\"\\4\"", 0⟩, ⟨.eof, "", 4⟩] ∧
    "\x04" ≠ "4" := by
  refine ⟨tokenize_of_scanKind rfl rfl ?_, by decide⟩
  have hstring : ∀ position, Token.readString '\x22' 0 position ['\x22'] = .ok ([], []) := by
    intro position
    rw [Token.readString, if_pos rfl]
  have hescape : ∀ position, Token.readEscape position (['4'] ++ ['\x22']) =
      .ok (['\x04'], ['\x22']) := fun _ => rfl
  have hquoted : Token.readString '\x22' 0 1 ['\\', '4', '\x22'] = .ok (['\x04'], []) :=
    readString_escape (by decide) hescape hstring
  show (Token.readString '\x22' 0 1 ['\\', '4', '\x22'] >>= fun x =>
    pure (TokenKind.string (String.ofList x.1), x.2)) = _
  rw [hquoted]
  rfl

end StringPiece

end DataBinding
