import DataBinding.Proofs.Grammar.Places
import DataBinding.Proofs.Token.Cover

/-!
# Layout

The texts of the tokens of a text can be written again with other blanks between them. A blank ends
every token, and what the reader makes of a token depends on its text and on the token in front of it. So
the reader finds the same tokens again, and the parser the same tree.

Results:

* `Cursor.scan_relaid`: the tokens ahead stay the same with other blanks between them.
* `tokenize_relaid`: so do the tokens of a text, and its tree or the error in its place.
-/

namespace DataBinding

/-- Characters to write in front of each token: blanks, and at least one between two tokens. -/
structure IsLayout (gaps : List (List Char)) (ts : List Token) : Prop where
  length : gaps.length = ts.length
  blank : ∀ gap ∈ gaps, ∀ c ∈ gap, Unicode.isWhitespace c = true
  /-- Nothing need stand in front of the first token and of the last one, the end of the input. -/
  apart : ∀ gap ∈ gaps.tail.dropLast, gap ≠ []

/-- The text of the tokens with these characters in front of each. -/
def laidOut (gaps : List (List Char)) (ts : List Token) : String := String.ofList (weave gaps ts)

theorem weave_last {last : Token} (h : last.raw = "") (gap : List Char) :
    weave [gap] [last] = gap := by
  simp [weave, h]

/-- Blanks end the token in front of them, and so does the end of the input. -/
theorem Token.endsAlike_blanks {bs : List Char} (hb : ∀ b ∈ bs, Unicode.isWhitespace b = true)
    (rest : List Char) : EndsAlike rest bs := by
  intro c hc
  right
  exact isEnd_of_isWhitespace (hb c (List.mem_of_head? hc))

namespace IsLayout

variable {gap : List Char} {gaps : List (List Char)} {t : Token} {ts : List Token}

theorem tail (h : IsLayout (gap :: gaps) (t :: ts)) : IsLayout gaps ts where
  length := Nat.succ.inj h.length
  blank := (List.forall_mem_cons.1 h.blank).2
  apart g hg := by
    cases gaps with
    | nil => cases hg
    | cons gap' gaps =>
      have hmem : g ∈ gap' :: gaps.dropLast := List.mem_cons_of_mem _ hg
      cases gaps with
      | nil => cases hg
      | cons => exact h.apart g hmem

/-- What is written behind the first token ends it. -/
theorem endsAlike {us : List Token} {last : Token} (h : IsLayout (gap :: gaps) (t :: (us ++ [last])))
    (hl : last.raw = "") (rest : List Char) :
    Token.EndsAlike rest (weave gaps (us ++ [last])) := by
  have hlen := h.tail.length
  have hblank := h.tail.blank
  cases us with
  | nil =>
    obtain ⟨g, rfl⟩ := List.length_eq_one_iff.1 hlen
    rw [List.nil_append, weave_last hl]
    exact Token.endsAlike_blanks (hblank g List.mem_cons_self) rest
  | cons u us =>
    cases gaps with
    | nil => cases hlen
    | cons g gaps =>
      have hmem : g ∈ (g :: gaps).dropLast := by
        cases gaps with
        | nil => simp at hlen
        | cons => exact List.mem_cons_self
      obtain ⟨b, bs, rfl⟩ := List.exists_cons_of_ne_nil (h.apart g hmem)
      have hb : Unicode.isWhitespace b = true := hblank _ List.mem_cons_self b List.mem_cons_self
      rintro c ⟨⟩
      exact .inr (Token.isEnd_of_isWhitespace hb)

end IsLayout

namespace Cursor

/-- The tokens ahead, written with other blanks in front of each, are read as the same tokens. -/
theorem scan_relaid {c : Cursor} {us : List Token} {last : Token}
    (h : c.scan = (us ++ [last], none)) (hl : last.kind = .eof) (hus : ∀ t ∈ us, t.kind ≠ .eof)
    {gaps : List (List Char)} (hg : IsLayout gaps (us ++ [last])) (p : Nat) : ∃ ts',
    (⟨weave gaps (us ++ [last]), p, c.valueExpected, c.afterDot⟩ : Cursor).scan = (ts', none) ∧
      ts'.map Token.unplaced = (us ++ [last]).map Token.unplaced := by
  have hraw : last.raw = "" := by
    obtain ⟨us', hlast, -⟩ := (fills_of_scan h hl hus).exists_last
    rw [List.singleton_inj.1 (List.append_inj' hlast rfl).2]
  -- both readers expect a value, or stand behind a point, at the same tokens
  induction us generalizing c gaps p with
  | nil =>
    obtain ⟨gap, rfl⟩ := List.length_eq_one_iff.1 hg.length
    have hscan := scan_blanks (hg.blank gap List.mem_cons_self) [] p c.valueExpected c.afterDot
    have hend := hscan.trans (scan_last (t := ⟨.eof, "", p + gap.length⟩) rfl rfl)
    rw [List.append_nil] at hend
    rw [List.nil_append, weave_last hraw]
    refine ⟨_, hend, ?_⟩
    rw [List.map_singleton, List.map_singleton, Token.unplaced, Token.unplaced, hl, hraw]
  | cons t us ih =>
    rw [List.forall_mem_cons] at hus
    have ht : t.kind.isEof = false := TokenKind.isEof_eq_false hus.1
    obtain ⟨c', hnext, hscan⟩ := next_of_scan h
    cases gaps with
    | nil => cases hg.length
    | cons gap gaps =>
      have hnext' := next_relaid hnext ht (hg.blank gap List.mem_cons_self)
        (hg.endsAlike hraw c'.rest) p
      obtain ⟨ts', hts', hsame⟩ := ih (hscan ht) hus.2 hg.tail _
      refine ⟨_, scan_cons hnext' ht hts', ?_⟩
      rw [List.map_cons, List.cons_append, List.map_cons, hsame]
      rfl

end Cursor

/-- The tokens of a text, written in their order with blanks between them and at both ends, are read as
    the same tokens at other positions, and have the same tree or the same error at another position. -/
theorem tokenize_relaid {source : String} {ts : List Token} (h : tokenize source = .ok ts)
    {gaps : List (List Char)} (hg : IsLayout gaps ts) :
    (∃ ts', tokenize (laidOut gaps ts) = .ok ts' ∧
      ts'.map Token.unplaced = ts.map Token.unplaced) ∧
    (Expr.parse (laidOut gaps ts)).mapError ParseError.unplaced =
      (Expr.parse source).mapError ParseError.unplaced := by
  have hscan := tokenize_eq_ok_iff.1 h
  obtain ⟨us, last, hs, hl, hus⟩ := Cursor.scan_of_none (Cursor.start source) (by rw [hscan])
  rw [hscan] at hs
  obtain rfl : ts = us ++ [last] := hs
  obtain ⟨ts', hscan', hsame⟩ := Cursor.scan_relaid hscan hl hus hg 0
  have h' : tokenize (laidOut gaps (us ++ [last])) = .ok ts' := by
    rw [tokenize_eq_ok_iff, Cursor.start, laidOut, String.toList_ofList]
    exact hscan'
  exact ⟨⟨ts', h', hsame⟩, Expr.parse_congr h h' hsame⟩

/-- A line break in front of the bracket, a tab and a blank behind it, and nothing at the ends -/
theorem tokenize_relaid_class : ∃ ts, tokenize " a[/[/]/g] " = .ok ts ∧
    laidOut [[], ['\n'], ['\t', ' '], [' '], []] ts = "a\n[\t /[/]/g ]" ∧
    (∃ ts', tokenize "a\n[\t /[/]/g ]" = .ok ts' ∧
      ts'.map Token.unplaced = ts.map Token.unplaced) ∧
    (Expr.parse "a\n[\t /[/]/g ]").mapError ParseError.unplaced =
      (Expr.parse " a[/[/]/g] ").mapError ParseError.unplaced := by
  have hblank : ([[], ['\n'], ['\t', ' '], [' '], []].all fun gap => gap.all Unicode.isWhitespace) =
      true := rfl
  have hg : IsLayout [[], ['\n'], ['\t', ' '], [' '], []] [⟨.name "a", "a", 1⟩,
      ⟨.punct .openBracket, "[", 2⟩, ⟨.regex "[/]" "g", "/[/]/g", 3⟩, ⟨.punct .closeBracket, "]", 9⟩,
      ⟨.eof, "", 11⟩] :=
    ⟨rfl, by simpa only [List.all_eq_true] using hblank, by decide⟩
  refine ⟨_, tokenize_class, rfl, ?_⟩
  have relaid := tokenize_relaid tokenize_class hg
  rwa [show laidOut _ _ = "a\n[\t /[/]/g ]" from rfl] at relaid

end DataBinding
