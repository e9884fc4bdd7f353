import DataBinding.Proofs.Token.Steps

/-!
# Tokens cover their text

A step of the reader takes blanks and then the text of one token, and no token but the end of the input
has an empty text. So the tokens of a text stand in it one behind the other, with nothing but blanks
between them, and there are no more of them than characters, the end of the input apart.

Results:

* `Cursor.fills_of_scan`: the tokens ahead fill the characters ahead.
* `tokenize_covers`: the tokens of a text and the blanks in front of them make up the text.
-/

namespace DataBinding

/-- The position behind the text of the token. -/
def Token.stop (t : Token) : Nat := t.position + t.raw.length

/-- The characters in front of each token, from position `p` or the token before up to it. -/
def gapsFrom (cs : List Char) (p : Nat) : List Token → List (List Char)
  | [] => []
  | t :: ts => cs.extract p t.position :: gapsFrom cs t.stop ts

/-- The characters of a text in front of each of its tokens. -/
def gaps (source : String) (ts : List Token) : List (List Char) := gapsFrom source.toList 0 ts

/-- The texts of tokens, each behind the characters that are put in front of it. -/
def weave : List (List Char) → List Token → List Char
  | gap :: gaps, t :: ts => gap ++ (t.raw.toList ++ weave gaps ts)
  | _, _ => []

/-- What the tokens of a text have to do with it. -/
structure Covers (source : String) (ts : List Token) : Prop where
  /-- The end of the input stands behind the last character, and no other token is empty. -/
  last : ∃ us, ts = us ++ [⟨.eof, "", source.length⟩] ∧ ∀ t ∈ us, t.kind ≠ .eof ∧ t.raw ≠ ""
  /-- The text of a token is what stands at its position. -/
  extract : ∀ t ∈ ts, source.toList.extract t.position t.stop = t.raw.toList
  /-- No token begins before those in front of it end. -/
  ordered : ts.Pairwise fun t u => t.stop ≤ u.position
  /-- Only blanks stand in front of tokens. -/
  blank : ∀ gap ∈ gaps source ts, ∀ c ∈ gap, Unicode.isWhitespace c = true
  /-- The blanks and the tokens make up the text. -/
  rebuilt : weave (gaps source ts) ts = source.toList
  /-- There is at most one token for each character, and the end of the input. -/
  length : ts.length ≤ source.length + 1

/-! ## Tokens in a row -/

/-- The tokens fill the characters from position `p` on: each stands behind blanks, and the end of the
    input is the last one and no other. -/
inductive Fills : Nat → List Char → List Token → Prop where
  | last {p : Nat} {bs : List Char} (hb : ∀ b ∈ bs, Unicode.isWhitespace b = true) :
      Fills p bs [⟨.eof, "", p + bs.length⟩]
  | cons {p : Nat} {bs cs : List Char} {t : Token} {ts : List Token}
      (hb : ∀ b ∈ bs, Unicode.isWhitespace b = true) (hp : t.position = p + bs.length)
      (hk : t.kind ≠ .eof) (hr : t.raw ≠ "") (h : Fills t.stop cs ts) :
      Fills p (bs ++ (t.raw.toList ++ cs)) (t :: ts)

/-- Behind `front` the characters up to a later place. -/
theorem extract_append {front : List Char} {p q : Nat} (cs ds : List Char) (hp : front.length = p)
    (hq : q = p + cs.length) : (front ++ (cs ++ ds)).extract p q = cs := by
  subst hp hq
  simp

namespace Fills

variable {p : Nat} {cs : List Char} {ts : List Token}

theorem exists_last (h : Fills p cs ts) : ∃ us, ts = us ++ [⟨.eof, "", p + cs.length⟩] ∧
    ∀ t ∈ us, t.kind ≠ .eof ∧ t.raw ≠ "" := by
  induction h with
  | last hb => exact ⟨[], rfl, by simp⟩
  | @cons p bs cs t ts hb hp hk hr h ih =>
    obtain ⟨us, hus, hall⟩ := ih
    have hend : t.stop + cs.length = p + (bs ++ (t.raw.toList ++ cs)).length := by
      rw [Token.stop, hp, List.length_append, List.length_append, String.length_toList]
      omega
    refine ⟨t :: us, by rw [hus, hend, List.cons_append], ?_⟩
    rw [List.forall_mem_cons]
    exact ⟨⟨hk, hr⟩, hall⟩

theorem le_position (h : Fills p cs ts) : ∀ t ∈ ts, p ≤ t.position := by
  induction h with
  | last hb => simp
  | @cons p bs cs t ts hb hp hk hr h ih =>
    rw [List.forall_mem_cons]
    have hstop : p ≤ t.stop := by
      unfold Token.stop
      omega
    exact ⟨by omega, fun u hu => Nat.le_trans hstop (ih u hu)⟩

theorem ordered (h : Fills p cs ts) : ts.Pairwise fun t u => t.stop ≤ u.position := by
  induction h with
  | last hb => simp
  | cons hb hp hk hr h ih => exact List.pairwise_cons.2 ⟨h.le_position, ih⟩

theorem length_le (h : Fills p cs ts) : ts.length ≤ cs.length + 1 := by
  induction h with
  | last hb => simp
  | @cons p bs cs t ts hb hp hk hr h ih =>
    have hpos : 0 < t.raw.toList.length :=
      List.length_pos_iff.2 fun he => hr (String.toList_eq_nil_iff.1 he)
    simp only [List.length_cons, List.length_append]
    omega

theorem extract_eq (h : Fills p cs ts) (front : List Char) (hf : front.length = p) :
    ∀ t ∈ ts, (front ++ cs).extract t.position t.stop = t.raw.toList := by
  induction h generalizing front with
  | last hb => simp [Token.stop]
  | @cons p bs cs t ts hb hp hk hr h ih =>
    have hbefore : (front ++ bs).length = t.position := by
      rw [List.length_append, hf, hp]
    have hbehind : (front ++ bs ++ t.raw.toList).length = t.stop := by
      rw [List.length_append, hbefore, Token.stop, String.length_toList]
    have hsplit : front ++ (bs ++ (t.raw.toList ++ cs)) = front ++ bs ++ (t.raw.toList ++ cs) := by
      simp
    rw [List.forall_mem_cons, hsplit]
    refine ⟨extract_append _ _ hbefore (by rw [Token.stop, String.length_toList]), ?_⟩
    rw [← List.append_assoc]
    exact ih _ hbehind

/-- The characters in front of the tokens are blanks, and they make up the text with the tokens. -/
theorem gapsFrom_spec (h : Fills p cs ts) (front : List Char) (hf : front.length = p) :
    (∀ gap ∈ gapsFrom (front ++ cs) p ts, ∀ c ∈ gap, Unicode.isWhitespace c = true) ∧
      weave (gapsFrom (front ++ cs) p ts) ts = cs := by
  induction h generalizing front with
  | @last p bs hb =>
    have hgap : (front ++ bs).extract p (p + bs.length) = bs := by
      have hgap := extract_append bs [] hf rfl
      rwa [List.append_nil] at hgap
    simp only [gapsFrom, weave, hgap]
    exact ⟨List.forall_mem_singleton.2 hb, by simp⟩
  | @cons p bs cs t ts hb hp hk hr h ih =>
    have hgap : (front ++ (bs ++ (t.raw.toList ++ cs))).extract p t.position = bs :=
      extract_append _ _ hf hp
    have hbehind : (front ++ bs ++ t.raw.toList).length = t.stop := by
      rw [List.length_append, List.length_append, hf, Token.stop, hp, String.length_toList]
    have hsplit : front ++ (bs ++ (t.raw.toList ++ cs)) = front ++ bs ++ t.raw.toList ++ cs := by
      simp
    obtain ⟨hblank, hweave⟩ := ih _ hbehind
    simp only [gapsFrom, weave, hgap]
    rw [hsplit, List.forall_mem_cons, hweave]
    exact ⟨⟨hb, hblank⟩, rfl⟩

end Fills

/-! ## The tokens of a text -/

namespace Cursor

/-- The end of the input has no text and stands behind the blanks that are left. -/
theorem eq_eof_of_next {c c' : Cursor} {t : Token} (h : c.next = .ok (t, c')) (ht : t.kind = .eof) :
    t = ⟨.eof, "", c.position + c.rest.length⟩ := by
  have hall := forall_isWhitespace_of_next h ht
  obtain ⟨hrest, hp, -⟩ := next_rest h
  have hblanks : c.blanks = c.rest := by
    rw [blanks, ← List.append_nil c.rest, List.takeWhile_append_of_pos hall]
    rfl
  have hraw : t.raw = "" := by
    rw [hblanks, List.append_assoc] at hrest
    have hnil := List.self_eq_append_right.1 hrest
    exact String.toList_eq_nil_iff.1 (List.append_eq_nil_iff.1 hnil).1
  rw [hblanks] at hp
  calc t = ⟨t.kind, t.raw, t.position⟩ := rfl
    _ = ⟨.eof, "", c.position + c.rest.length⟩ := by rw [ht, hraw, hp]

/-- The tokens ahead fill the characters ahead, where the last one is the end of the input. -/
theorem fills_of_scan {c : Cursor} {us : List Token} {last : Token}
    (h : c.scan = (us ++ [last], none)) (hl : last.kind = .eof) (hus : ∀ t ∈ us, t.kind ≠ .eof) :
    Fills c.position c.rest (us ++ [last]) := by
  induction us generalizing c with
  | nil =>
    obtain ⟨c', hnext, -⟩ := next_of_scan h
    rw [eq_eof_of_next hnext hl]
    exact .last (forall_isWhitespace_of_next hnext hl)
  | cons t us ih =>
    rw [List.forall_mem_cons] at hus
    have ht : t.kind.isEof = false := TokenKind.isEof_eq_false hus.1
    obtain ⟨c', hnext, hscan⟩ := next_of_scan h
    obtain ⟨hrest, hp, hp'⟩ := next_rest hnext
    have hstop : c'.position = t.stop := by rw [hp', Token.stop, String.length_toList]
    have hfills := ih (hscan ht) hus.2
    rw [hstop] at hfills
    rw [hrest, List.append_assoc]
    exact .cons c.isWhitespace_of_mem_blanks hp hus.1 (raw_ne_empty_of_next hnext ht) hfills

end Cursor

theorem tokenize_fills {source : String} {ts : List Token} (h : tokenize source = .ok ts) :
    Fills 0 source.toList ts := by
  rw [tokenize_eq_ok_iff] at h
  obtain ⟨us, last, hs, hl, hus⟩ := Cursor.scan_of_none (Cursor.start source) (by rw [h])
  rw [h] at hs
  obtain rfl : ts = us ++ [last] := hs
  exact Cursor.fills_of_scan h hl hus

/-- The tokens of a text cover it: they stand in it in order and at their positions, all but the end of
    the input have a text, and nothing but blanks is left out. -/
theorem tokenize_covers {source : String} {ts : List Token} (h : tokenize source = .ok ts) :
    Covers source ts := by
  have fills := tokenize_fills h
  obtain ⟨hblank, hweave⟩ := fills.gapsFrom_spec [] rfl
  rw [List.nil_append] at hblank hweave
  constructor
  · obtain ⟨us, hus, hall⟩ := fills.exists_last
    rw [Nat.zero_add, String.length_toList] at hus
    exact ⟨us, hus, hall⟩
  · exact fills.extract_eq [] rfl
  · exact fills.ordered
  · exact hblank
  · exact hweave
  · have hlength := fills.length_le
    rwa [String.length_toList] at hlength

/-- Blanks at both ends, and a regular expression with a slash in a class -/
theorem tokenize_class : tokenize " a[/[/]/g] " = .ok [⟨.name "a", "a", 1⟩,
    ⟨.punct .openBracket, "[", 2⟩, ⟨.regex "[/]" "g", "/[/]/g", 3⟩, ⟨.punct .closeBracket, "]", 9⟩,
    ⟨.eof, "", 11⟩] := by
  rw [tokenize_eq_ok_iff]
  iterate 4 refine Cursor.scan_cons rfl rfl ?_
  exact Cursor.scan_last rfl rfl

theorem tokenize_covers_class : ∃ ts, tokenize " a[/[/]/g] " = .ok ts ∧
    Covers " a[/[/]/g] " ts ∧ gaps " a[/[/]/g] " ts = [[' '], [], [], [], [' ']] :=
  ⟨_, tokenize_class, tokenize_covers tokenize_class, rfl⟩

end DataBinding
