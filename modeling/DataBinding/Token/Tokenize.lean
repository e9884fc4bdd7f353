import DataBinding.Token.Scan

/-!
# The tokens of a text

A `Cursor` stands between two tokens of a text. Stepping over one token skips the blanks before it.
The tokens of a text end with the end of the input or before the first fault.

Results:

* `Cursor.next_rest`: a step takes blanks, then the text of its token.
* `Cursor.next_length_lt`: a step over any token but the end of the input takes characters.
-/

namespace DataBinding

/-- A place between two tokens. -/
structure Cursor where
  /-- The characters ahead. -/
  rest : List Char
  /-- The number of characters behind. -/
  position : Nat
  /-- A value may come next. -/
  valueExpected : Bool
  /-- The token before was a point. -/
  afterDot : Bool

namespace Cursor

/-- The start of a text. -/
def start (source : String) : Cursor := ⟨source.toList, 0, true, false⟩

/-- The blanks ahead. -/
def blanks (c : Cursor) : List Char := c.rest.takeWhile Unicode.isWhitespace

/-- The characters after the blanks ahead. -/
def afterBlanks (c : Cursor) : List Char := c.rest.dropWhile Unicode.isWhitespace

/-- The position after the blanks ahead. -/
def tokenStart (c : Cursor) : Nat := c.position + c.blanks.length

/-- The place after a token of this kind, which starts after the blanks and leaves `rest`. -/
def after (c : Cursor) (kind : TokenKind) (rest : List Char) : Cursor :=
  ⟨rest, c.tokenStart + (c.afterBlanks.length - rest.length), kind.expectsValue, kind.isPunct .dot⟩

/-- The next token and the place after it. -/
def next (c : Cursor) : Except LexError (Token × Cursor) := do
  let (kind, rest) ← Token.scanKind c.valueExpected c.afterDot c.tokenStart c.afterBlanks
  let raw := c.afterBlanks.take (c.afterBlanks.length - rest.length)
  return (⟨kind, String.ofList raw, c.tokenStart⟩, c.after kind rest)

/-- A step takes blanks, then the text of its token. -/
theorem next_rest {c c' : Cursor} {t : Token} (h : c.next = .ok (t, c')) :
    c.rest = c.blanks ++ t.raw.toList ++ c'.rest ∧ t.position = c.position + c.blanks.length ∧
      c'.position = t.position + t.raw.toList.length := by
  unfold next at h
  cases hk : Token.scanKind c.valueExpected c.afterDot c.tokenStart c.afterBlanks with
  | error e => simp [hk, bind, Except.bind] at h
  | ok r =>
    obtain ⟨kind, rest⟩ := r
    simp only [hk, bind, Except.bind] at h
    obtain ⟨rfl, rfl⟩ := Prod.mk.inj (Except.ok.inj h)
    obtain ⟨used, hu⟩ := (Token.scanKind_suffix hk).1
    have hlen : c.afterBlanks.length - rest.length = used.length := by
      rw [← hu, List.length_append]
      omega
    have htake : c.afterBlanks.take (c.afterBlanks.length - rest.length) = used := by
      rw [hlen, ← hu, List.take_left]
    refine ⟨?_, rfl, ?_⟩
    · simp only [after, String.toList_ofList, htake, List.append_assoc, hu]
      exact (List.takeWhile_append_dropWhile).symm
    · simp only [after, String.toList_ofList]
      rw [htake, hlen]

/-- A step over any token but the end of the input takes characters. -/
theorem next_length_lt {c c' : Cursor} {t : Token} (h : c.next = .ok (t, c'))
    (ht : t.kind.isEof = false) : c'.rest.length < c.rest.length := by
  unfold next at h
  cases hk : Token.scanKind c.valueExpected c.afterDot c.tokenStart c.afterBlanks with
  | error e => simp [hk, bind, Except.bind] at h
  | ok r =>
    obtain ⟨kind, rest⟩ := r
    simp only [hk, bind, Except.bind] at h
    obtain ⟨rfl, rfl⟩ := Prod.mk.inj (Except.ok.inj h)
    have h₁ := (Token.scanKind_suffix hk).2 ht
    have h₂ := (List.dropWhile_suffix (l := c.rest) Unicode.isWhitespace).length_le
    exact Nat.lt_of_lt_of_le h₁ h₂

/-- The tokens ahead, up to the end of the input or the first fault. -/
def scan (c : Cursor) : List Token × Option LexError :=
  match _h : c.next with
  | .error e => ([], some e)
  | .ok (t, c') =>
    if _ht : t.kind.isEof then ([t], none)
    else
      let (ts, fault) := scan c'
      (t :: ts, fault)
termination_by c.rest.length
decreasing_by exact next_length_lt _h (by simpa using _ht)

end Cursor

/-- The tokens of a text, which end with the end of the input. -/
def tokenize (source : String) : Except LexError (List Token) :=
  match (Cursor.start source).scan with
  | (ts, none) => .ok ts
  | (_, some e) => .error e

end DataBinding
