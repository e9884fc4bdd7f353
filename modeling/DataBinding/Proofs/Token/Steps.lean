import DataBinding.Proofs.Printing.Pieces
import DataBinding.Proofs.Token.Scans

/-!
# Steps over tokens

A step takes blanks and then one token. If a text stands in front of a character that ends every token,
its tokens are taken as they are from the text alone, but for their positions, and so are the tokens in
front of a place of a text where such a character is put in.

Results:

* `Cursor.next_of_scans`, `Cursor.exists_scans_of_next`: what a step takes.
* `Cursor.next_relaid`: a step with other blanks in front of the token and other characters behind it.
* `Cursor.takes_followed`: the tokens of a text in front of other characters.
* `Cursor.takes_before`: the tokens in front of one of a text.
* `Expr.Spelled.moved`: what tokens spell does not depend on their positions.
-/

namespace DataBinding

/-- The token, this far along. -/
def Token.moved (n : Nat) (t : Token) : Token := { t with position := t.position + n }

namespace Cursor

/-! ## One step -/

theorem isWhitespace_of_mem_blanks (c : Cursor) : ∀ b ∈ c.blanks, Unicode.isWhitespace b = true :=
  fun b hb => List.all_eq_true.1 List.all_takeWhile b hb

/-- A step takes the blanks ahead and the token behind them. -/
theorem next_of_scans {bs cs raw rest : List Char} {c : Char} {v d : Bool} {kind : TokenKind}
    (hb : ∀ b ∈ bs, Unicode.isWhitespace b = true) (hc : Unicode.isWhitespace c = false)
    (h : Token.Scans v d c cs kind rest) (hraw : c :: cs = raw ++ rest) (p : Nat) :
    (⟨bs ++ c :: cs, p, v, d⟩ : Cursor).next = .ok (⟨kind, String.ofList raw, p + bs.length⟩,
      ⟨rest, p + bs.length + raw.length, kind.expectsValue, kind.isPunct .dot⟩) := by
  rw [next_blanks hb]
  cases raw with
  | nil =>
    have hlt := (Token.scanKind_suffix (h.scanKind_eq 0)).2 h.isEof_eq_false
    rw [hraw] at hlt
    exact absurd hlt (Nat.lt_irrefl _)
  | cons d x =>
    obtain ⟨rfl, rfl⟩ := List.cons.inj hraw
    exact next_of_scanKind hc (h.scanKind_eq _)

/-- A step over a token takes blanks and what the token is read from. -/
theorem exists_scans_of_next {c c' : Cursor} {t : Token} (h : c.next = .ok (t, c'))
    (ht : t.kind.isEof = false) : ∃ bs d cs raw rest, c.rest = bs ++ d :: cs ∧
      (∀ b ∈ bs, Unicode.isWhitespace b = true) ∧ Unicode.isWhitespace d = false ∧
      Token.Scans c.valueExpected c.afterDot d cs t.kind rest ∧ d :: cs = raw ++ rest ∧
      t = ⟨t.kind, String.ofList raw, c.position + bs.length⟩ ∧
      c' = ⟨rest, c.position + bs.length + raw.length, t.kind.expectsValue, t.kind.isPunct .dot⟩ := by
  obtain ⟨⟨kind, rest⟩, hk, he⟩ := bind_eq_ok_iff.1 h
  have hkind : t.kind = kind := by
    obtain ⟨rfl, -⟩ := Prod.mk.inj (Except.ok.inj he)
    rfl
  have hrest : c.rest = c.blanks ++ c.afterBlanks := List.takeWhile_append_dropWhile.symm
  cases hafter : c.afterBlanks with
  | nil =>
    rw [hafter] at hk
    cases hk
    rw [hkind] at ht
    cases ht
  | cons d cs =>
    have hd : Unicode.isWhitespace d = false := by
      have hhead := List.head?_dropWhile_not Unicode.isWhitespace c.rest
      rw [show c.rest.dropWhile Unicode.isWhitespace = d :: cs from hafter] at hhead
      exact hhead
    rw [hafter] at hk hrest
    obtain ⟨raw, hraw⟩ := (Token.scanKind_suffix hk).1
    have hscans := Token.scanKind_eq_ok_iff.1 hk
    have hnext := next_of_scans c.isWhitespace_of_mem_blanks hd hscans hraw.symm c.position
    rw [← hrest] at hnext
    obtain ⟨rfl, rfl⟩ := Prod.mk.inj (Except.ok.inj (h.symm.trans hnext))
    exact ⟨c.blanks, d, cs, raw, rest, hrest, c.isWhitespace_of_mem_blanks, hd, hscans, hraw.symm, rfl,
      rfl⟩

/-! ## Texts elsewhere -/

/-- The place, this far along. -/
def moved (c : Cursor) (n : Nat) : Cursor := { c with position := c.position + n }

/-- The place, this far along, with these characters behind the text. -/
def followed (c : Cursor) (n : Nat) (r : List Char) : Cursor :=
  ⟨c.rest ++ r, c.position + n, c.valueExpected, c.afterDot⟩

/-- A token has a text. -/
theorem raw_ne_empty_of_next {c c' : Cursor} {t : Token} (h : c.next = .ok (t, c'))
    (ht : t.kind.isEof = false) : t.raw ≠ "" := by
  obtain ⟨bs, d, cs, raw, rest, -, -, -, hscans, hraw, ht', -⟩ := exists_scans_of_next h ht
  -- the reader of a token takes at least the character that it looks at
  obtain ⟨used, rfl, -⟩ := hscans.elsewhere
  obtain rfl : d :: used = raw := List.append_cancel_right hraw
  rw [ht']
  simp

/-- A step over a token depends on its text and on what ends it, not on the blanks in front of it. -/
theorem next_relaid {c c' : Cursor} {t : Token} (h : c.next = .ok (t, c'))
    (ht : t.kind.isEof = false) {bs : List Char} (hb : ∀ b ∈ bs, Unicode.isWhitespace b = true)
    {rest' : List Char} (hr : Token.EndsAlike c'.rest rest') (p : Nat) :
    (⟨bs ++ (t.raw.toList ++ rest'), p, c.valueExpected, c.afterDot⟩ : Cursor).next =
      .ok (⟨t.kind, t.raw, p + bs.length⟩,
        ⟨rest', p + bs.length + t.raw.toList.length, c'.valueExpected, c'.afterDot⟩) := by
  obtain ⟨bs', d, cs, raw, rest, -, -, hd, hscans, hraw, ht', rfl⟩ := exists_scans_of_next h ht
  obtain ⟨used, rfl, helse⟩ := hscans.elsewhere
  obtain rfl : d :: used = raw := List.append_cancel_right hraw
  have htext : t.raw = String.ofList (d :: used) := by rw [ht']
  rw [htext, String.toList_ofList]
  exact next_of_scans hb hd (helse rest' hr) rfl p

/-- A step over a token takes characters that make the same step in front of others that end the
    token. -/
theorem next_elsewhere {c c' : Cursor} {t : Token} (h : c.next = .ok (t, c'))
    (ht : t.kind.isEof = false) : ∃ front, c.rest = front ++ c'.rest ∧
      c'.position = c.position + front.length ∧
      ∀ n rest', Token.EndsAlike c'.rest rest' →
        (⟨front ++ rest', c.position + n, c.valueExpected, c.afterDot⟩ : Cursor).next =
          .ok (t.moved n, ⟨rest', c'.position + n, c'.valueExpected, c'.afterDot⟩) := by
  obtain ⟨hrest, hp, hp'⟩ := next_rest h
  refine ⟨c.blanks ++ t.raw.toList, hrest, ?_, fun n rest' hr => ?_⟩
  · rw [hp', hp, List.length_append, Nat.add_assoc]
  · rw [List.append_assoc, next_relaid h ht c.isWhitespace_of_mem_blanks hr, Token.moved, hp', hp]
    simp only [Nat.add_right_comm _ n]

/-- A step over a token is the same in front of characters that end it. -/
theorem next_followed {c c' : Cursor} {t : Token} (h : c.next = .ok (t, c'))
    (ht : t.kind.isEof = false) {r : List Char} (hr : Token.EndsTokens r) (n : Nat) :
    (c.followed n r).next = .ok (t.moved n, c'.followed n r) := by
  obtain ⟨front, hrest, -, helse⟩ := next_elsewhere h ht
  rw [followed, hrest, List.append_assoc]
  exact helse n _ (Token.endsAlike_append hr c'.rest)

/-- The first of the tokens ahead, if it is not the end of the input. -/
theorem next_of_scan {c : Cursor} {t : Token} {ts : List Token} {fault : Option LexError}
    (h : c.scan = (t :: ts, fault)) : ∃ c', c.next = .ok (t, c') ∧
      (t.kind.isEof = false → c'.scan = (ts, fault)) := by
  rw [scan_eq] at h
  cases hnext : c.next with
  | error e => simp [hnext] at h
  | ok next =>
    obtain ⟨u, c'⟩ := next
    rw [hnext] at h
    dsimp only at h
    split at h
    · rename_i hu
      obtain ⟨rfl, -⟩ := List.cons.inj (Prod.mk.inj h).1
      exact ⟨c', rfl, fun ht => by simp [hu] at ht⟩
    · obtain ⟨hts, rfl⟩ := Prod.mk.inj h
      obtain ⟨rfl, rfl⟩ := List.cons.inj hts
      exact ⟨c', rfl, fun _ => rfl⟩

/-- Only blanks stand before the end of the input. -/
theorem forall_isWhitespace_of_next {c c' : Cursor} {t : Token} (h : c.next = .ok (t, c'))
    (ht : t.kind = .eof) : ∀ b ∈ c.rest, Unicode.isWhitespace b = true := by
  obtain ⟨⟨kind, rest⟩, hk, he⟩ := bind_eq_ok_iff.1 h
  obtain ⟨rfl, -⟩ := Prod.mk.inj (Except.ok.inj he)
  cases hafter : c.afterBlanks with
  | nil =>
    have hrest : c.blanks ++ c.afterBlanks = c.rest := List.takeWhile_append_dropWhile
    rw [hafter, List.append_nil] at hrest
    rw [← hrest]
    exact c.isWhitespace_of_mem_blanks
  | cons d cs =>
    rw [hafter] at hk
    have hne := (Token.scanKind_eq_ok_iff.1 hk).isEof_eq_false
    rw [show kind = .eof from ht] at hne
    cases hne

/-- The tokens of a text in front of characters that end every token. The last of them decides what may
    come next. -/
theorem takes_followed {c : Cursor} {ts : List Token} {t last : Token}
    (h : c.scan = (ts ++ [t, last], none)) (hl : last.kind = .eof) (ht : t.kind.isEof = false)
    (hts : ∀ u ∈ ts, u.kind ≠ .eof) {r : List Char} (hr : Token.EndsTokens r) (n : Nat) :
    ∃ p, (c.followed n r).Takes ((ts ++ [t]).map (Token.moved n))
      ⟨r, p, t.kind.expectsValue, t.kind.isPunct .dot⟩ := by
  induction ts generalizing c with
  | nil =>
    obtain ⟨c', hnext, hscan⟩ := next_of_scan h
    obtain ⟨c'', hlast, -⟩ := next_of_scan (hscan ht)
    have hstep := takes_of_next (next_followed hnext ht hr n) ht
    obtain ⟨_, _, _, _, _, -, -, -, -, -, -, rfl⟩ := exists_scans_of_next hnext ht
    have hblanks := scan_blanks (forall_isWhitespace_of_next hlast hl) r
    exact ⟨_, hstep.trans (hblanks _ _ _)⟩
  | cons u ts ih =>
    rw [List.forall_mem_cons] at hts
    have hu : u.kind.isEof = false := TokenKind.isEof_eq_false hts.1
    obtain ⟨c', hnext, hscan⟩ := next_of_scan h
    obtain ⟨p, htakes⟩ := ih (hscan hu) hts.2
    exact ⟨p, (takes_of_next (next_followed hnext hu hr n) hu).trans htakes⟩

/-- The tokens ahead do not depend on the position. -/
theorem scan_moved {c : Cursor} {ts : List Token} {last : Token} (h : c.scan = (ts ++ [last], none))
    (hl : last.kind = .eof) (hts : ∀ t ∈ ts, t.kind ≠ .eof) (n : Nat) :
    ∃ last', (c.moved n).scan = (ts.map (Token.moved n) ++ [last'], none) ∧ last'.kind = .eof := by
  induction ts generalizing c with
  | nil =>
    obtain ⟨c', hnext, -⟩ := next_of_scan h
    have hscan := scan_blanks (forall_isWhitespace_of_next hnext hl) [] (c.position + n)
      c.valueExpected c.afterDot
    rw [List.append_nil] at hscan
    exact ⟨_, hscan.trans (scan_last rfl rfl), rfl⟩
  | cons t ts ih =>
    rw [List.forall_mem_cons] at hts
    have ht : t.kind.isEof = false := TokenKind.isEof_eq_false hts.1
    obtain ⟨c', hnext, hscan⟩ := next_of_scan h
    obtain ⟨front, hrest, -, helse⟩ := next_elsewhere hnext ht
    obtain ⟨last', hmoved, hl'⟩ := ih (hscan ht) hts.2
    have hstep := helse n c'.rest fun _ => .inl
    rw [← hrest] at hstep
    exact ⟨last', scan_cons hstep ht hmoved, hl'⟩

/-- The tokens in front of one of a text, the place behind it, and what is in front of it in the text.
    In front of a character that ends every token the same tokens are taken. -/
theorem takes_before {c : Cursor} {us vs : List Token} {t : Token} {fault : Option LexError}
    (h : c.scan = (us ++ t :: vs, fault)) (hus : ∀ u ∈ us, u.kind ≠ .eof)
    (ht : t.kind.isEof = false) : ∃ front, ∃ c' : Cursor,
      c.rest = front ++ (t.raw.toList ++ c'.rest) ∧
      c' = ⟨c'.rest, c.position + front.length + t.raw.toList.length, t.kind.expectsValue,
        t.kind.isPunct .dot⟩ ∧ c'.scan = (vs, fault) ∧
      ∀ s r, Token.isEnd s = true → ∃ v d,
        (⟨front ++ s :: r, c.position, c.valueExpected, c.afterDot⟩ : Cursor).Takes us
          ⟨s :: r, c.position + front.length, v, d⟩ := by
  induction us generalizing c with
  | nil =>
    obtain ⟨c', hnext, hscan⟩ := next_of_scan h
    obtain ⟨bs, d, cs, raw, rest, hrest, hb, -, -, hraw, ht', rfl⟩ := exists_scans_of_next hnext ht
    have htext : t.raw.toList = raw := by rw [ht', String.toList_ofList]
    exact ⟨bs, _, by rw [hrest, hraw, htext], by rw [htext], hscan ht,
      fun s r _ => ⟨_, _, scan_blanks hb (s :: r) _ _ _⟩⟩
  | cons u us ih =>
    rw [List.forall_mem_cons] at hus
    have hu : u.kind.isEof = false := TokenKind.isEof_eq_false hus.1
    obtain ⟨c₁, hnext, hscan⟩ := next_of_scan h
    obtain ⟨front₁, hrest₁, hposition, helse⟩ := next_elsewhere hnext hu
    obtain ⟨front, c', hrest, hc', hscan', htakes⟩ := ih (hscan hu) hus.2
    refine ⟨front₁ ++ front, c', by rw [hrest₁, hrest, List.append_assoc], ?_, hscan',
      fun s r hs => ?_⟩
    · rw [List.length_append, ← Nat.add_assoc, ← hposition]
      exact hc'
    · -- the token before ends in front of the same character as in the text, or of the one put in
      have hends : Token.EndsAlike c₁.rest (front ++ s :: r) := by
        rw [hrest]
        cases front with
        | nil =>
          rintro e ⟨⟩
          exact .inr hs
        | cons e front => exact fun e' he => .inl he
      obtain ⟨v, d, htakes⟩ := htakes s r hs
      have hstep := takes_of_next (helse 0 _ hends) hu
      rw [List.length_append, ← Nat.add_assoc, ← hposition, List.append_assoc]
      exact ⟨v, d, hstep.trans htakes⟩

end Cursor

namespace Expr

/-! ## Trees of tokens elsewhere -/

section

variable {n : Nat}

mutual

/-- What tokens spell does not depend on their positions. -/
theorem Spelled.moved {e : Expr} {ts : List Token} : Spelled e ts → Spelled e (ts.map (Token.moved n))
  | .literal h => .literal h
  | .symbol h => .symbol h
  | .conditional hc hq hy hm ha => by
    simp only [List.map_append, List.map_cons]
    exact .conditional hc.moved hq hy.moved hm ha.moved
  | .unary ht h => .unary ht h.moved
  | .binary hl ht hr => by
    simp only [List.map_append, List.map_cons]
    exact .binary hl.moved ht hr.moved
  | .member h hd ht => by
    simp only [List.map_append]
    exact .member h.moved hd ht
  | .index h ho hk hc => by
    simp only [List.map_append, List.map_cons]
    exact .index h.moved ho hk.moved hc
  | .call h ho hx hc => by
    simp only [List.map_append, List.map_cons]
    exact .call h.moved ho hx.moved hc
  | .array ho hx hc => by
    simp only [List.map_append, List.map_cons]
    exact .array ho hx.moved hc
  | .object ho hx hc => by
    simp only [List.map_append, List.map_cons]
    exact .object ho hx.moved hc
  | .parens ho hx hc => by
    simp only [List.map_append, List.map_cons]
    exact .parens ho hx.moved hc
  | .arrow ho hx hc hm h => by
    simp only [List.map_append, List.map_cons]
    exact .arrow ho hx.moved hc hm h.moved
  | .bareArrow ht hm h => .bareArrow ht hm h.moved

theorem SpelledList.moved {es : List Expr} {ts : List Token} :
    SpelledList es ts → SpelledList es (ts.map (Token.moved n))
  | .nil => .nil
  | .last h => .last h.moved
  | .cons h hc hs => by
    simp only [List.map_append, List.map_cons]
    exact .cons h.moved hc hs.moved

theorem SpelledEntries.moved {entries : List (ObjectKey × Expr)} {ts : List Token} :
    SpelledEntries entries ts → SpelledEntries entries (ts.map (Token.moved n))
  | .nil => .nil
  | .last ht hm h => .last ht hm h.moved
  | .cons ht hm h hc hs => by
    simp only [List.map_append, List.map_cons]
    exact .cons ht hm h.moved hc hs.moved

end

theorem SpelledStages.moved {stages : List (Symbol × List Expr)} {ts : List Token}
    (h : SpelledStages stages ts) : SpelledStages stages (ts.map (Token.moved n)) := by
  induction h with
  | nil => exact .nil
  | name hp ht hs ih => exact .name hp ht ih
  | call hp ht ho hx hc hs ih =>
    simp only [List.map_append, List.map_cons]
    exact .call hp ht ho hx.moved hc ih

end

end Expr

end DataBinding
