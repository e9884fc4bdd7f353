import DataBinding.Proofs.Grammar.Stages

/-!
# Whole texts

The tokens of a text end with the end of the input, which stands nowhere else, or before a fault. So
the parser reaches the end of the input only where the whole text is read.

Results:

* `Cursor.scan_of_none`, `Cursor.scan_of_some`: where the end of the input stands among the tokens.
* `raw_of_tokenize`: the text of a name token is the name.
* `Expr.parse_eq_ok_iff`: a text has a tree exactly if its tokens spell that tree and it is well
  stratified.
-/

namespace DataBinding

theorem TokenKind.isEof_iff {k : TokenKind} : k.isEof = true ↔ k = .eof := by
  cases k <;> simp [isEof]

theorem TokenKind.isEof_eq_false {k : TokenKind} (h : k ≠ .eof) : k.isEof = false :=
  Bool.eq_false_iff.2 fun he => h (isEof_iff.1 he)

namespace Cursor

theorem scan_eq (c : Cursor) : c.scan = match c.next with
    | .error e => ([], some e)
    | .ok (t, c') =>
      if t.kind.isEof then ([t], none) else (t :: c'.scan.1, c'.scan.2) := by
  rw [scan]
  split
  · rename_i h
    rw [h]
  · rename_i h
    rw [h]
    simp only
    split <;> rfl

/-- The tokens ahead are the next one and those behind it. -/
theorem scan_cons {c c' : Cursor} {t : Token} {ts : List Token} {fault : Option LexError}
    (h : c.next = .ok (t, c')) (ht : t.kind.isEof = false) (hs : c'.scan = (ts, fault)) :
    c.scan = (t :: ts, fault) := by
  rw [scan_eq, h]
  simp [ht, hs]

/-- Nothing lies behind the end of the input. -/
theorem scan_last {c c' : Cursor} {t : Token} (h : c.next = .ok (t, c')) (ht : t.kind.isEof = true) :
    c.scan = ([t], none) := by
  rw [scan_eq, h]
  simp [ht]

/-- Before a fault no token is the end of the input. -/
theorem scan_of_some (c : Cursor) {e : LexError} (h : c.scan.2 = some e) :
    ∀ t ∈ c.scan.1, t.kind ≠ .eof := by
  rw [scan_eq] at h ⊢
  cases hn : c.next with
  | error e' => simp
  | ok r =>
    obtain ⟨t, c'⟩ := r
    simp only [hn] at h ⊢
    by_cases ht : t.kind.isEof = true
    · simp [ht] at h
    · rw [if_neg ht] at h ⊢
      have hlt := next_length_lt hn (Bool.eq_false_iff.2 ht)
      have ih := scan_of_some c' h
      intro u hu
      rcases List.mem_cons.1 hu with rfl | hu
      · exact fun hk => ht (TokenKind.isEof_iff.2 hk)
      · exact ih u hu
termination_by c.rest.length

/-- Without a fault the last token, and no other, is the end of the input. -/
theorem scan_of_none (c : Cursor) (h : c.scan.2 = none) :
    ∃ ts last, c.scan.1 = ts ++ [last] ∧ last.kind = .eof ∧ ∀ t ∈ ts, t.kind ≠ .eof := by
  rw [scan_eq] at h ⊢
  cases hn : c.next with
  | error e' => simp [hn] at h
  | ok r =>
    obtain ⟨t, c'⟩ := r
    simp only [hn] at h ⊢
    by_cases ht : t.kind.isEof = true
    · rw [if_pos ht]
      exact ⟨[], t, rfl, TokenKind.isEof_iff.1 ht, by simp⟩
    · rw [if_neg ht] at h ⊢
      have hlt := next_length_lt hn (Bool.eq_false_iff.2 ht)
      obtain ⟨ts, last, hs, hl, hts⟩ := scan_of_none c' h
      refine ⟨t :: ts, last, ?_, hl, ?_⟩
      · show t :: c'.scan.1 = t :: (ts ++ [last])
        rw [hs]
      · intro u hu
        rcases List.mem_cons.1 hu with rfl | hu
        · exact fun hk => ht (TokenKind.isEof_iff.2 hk)
        · exact hts u hu
termination_by c.rest.length

end Cursor

theorem tokenize_eq_ok_iff {source : String} {ts : List Token} :
    tokenize source = .ok ts ↔ (Cursor.start source).scan = (ts, none) := by
  unfold tokenize
  obtain ⟨us, fault⟩ := (Cursor.start source).scan
  cases fault <;> simp

/-! ## The texts of names -/

theorem Token.name_of_readWord {afterDot : Bool} {position : Nat} {cs rest : List Char}
    {name : String} (h : readWord afterDot position cs = .ok (.name name, rest)) :
    name.toList ++ rest = cs := by
  obtain ⟨kind, hk, h⟩ := bind_eq_ok_iff.1 h
  cases h
  have hn : name = String.ofList (cs.takeWhile isIdentifierPart) := by
    unfold kindOfWord at hk
    split at hk
    · cases hk
      rfl
    -- atoms, operators and forbidden words are no names
    iterate 4
      split at hk
      · cases hk
    cases hk
    rfl
  rw [hn, String.toList_ofList, List.takeWhile_append_dropWhile]

/-- A name is the text that it is read from. -/
theorem Token.name_of_scanKind {valueExpected afterDot : Bool} {position : Nat}
    {cs rest : List Char} {name : String}
    (h : scanKind valueExpected afterDot position cs = .ok (.name name, rest)) :
    name.toList ++ rest = cs := by
  unfold scanKind at h
  split at h
  · cases h
  split at h
  · unfold readNumber at h
    dsimp only at h
    split at h <;> cases h
  split at h
  · obtain ⟨_, -, h⟩ := bind_eq_ok_iff.1 h
    cases h
  split at h
  · unfold readRegex at h
    split at h
    · cases h
    split at h
    · cases h
    dsimp only at h
    split at h <;> cases h
  split at h
  · cases h
  split at h
  · obtain ⟨kind, hk, h⟩ := bind_eq_ok_iff.1 h
    cases h
    unfold kindOfOperator at hk
    split at hk
    · cases hk
    · split at hk <;> cases hk
  split at h
  · exact name_of_readWord h
  · cases h

/-- The text of a name is the name. -/
theorem Cursor.raw_of_next {c c' : Cursor} {t : Token} {name : String} (h : c.next = .ok (t, c'))
    (ht : t.kind = .name name) : t.raw = name := by
  obtain ⟨⟨kind, rest⟩, hk, h⟩ := bind_eq_ok_iff.1 h
  cases h
  dsimp only at ht
  subst ht
  have hn := Token.name_of_scanKind hk
  show String.ofList (c.afterBlanks.take (c.afterBlanks.length - rest.length)) = name
  rw [← hn, List.length_append, Nat.add_sub_cancel, List.take_left, String.ofList_toList]

theorem Cursor.raw_of_mem_scan (c : Cursor) {t : Token} {name : String} (hm : t ∈ c.scan.1)
    (ht : t.kind = .name name) : t.raw = name := by
  rw [scan_eq] at hm
  cases hn : c.next with
  | error e => simp [hn] at hm
  | ok r =>
    obtain ⟨u, c'⟩ := r
    simp only [hn] at hm
    by_cases hu : u.kind.isEof = true
    · rw [if_pos hu] at hm
      obtain rfl := List.mem_singleton.1 hm
      exact raw_of_next hn ht
    · rw [if_neg hu] at hm
      have hlt := next_length_lt hn (Bool.eq_false_iff.2 hu)
      rcases List.mem_cons.1 hm with rfl | hm
      · exact raw_of_next hn ht
      · exact raw_of_mem_scan c' hm ht
termination_by c.rest.length

/-- The text of a name token is the name. -/
theorem raw_of_tokenize {source : String} {ts : List Token} {t : Token} {name : String}
    (h : tokenize source = .ok ts) (hm : t ∈ ts) (ht : t.kind = .name name) : t.raw = name := by
  refine Cursor.raw_of_mem_scan (.start source) ?_ ht
  rw [tokenize_eq_ok_iff.1 h]
  exact hm

namespace Tokens

theorem ofSource_eq_ok_iff {source : String} {c : Tokens} :
    ofSource source = .ok c ↔ (Cursor.start source).scan = (c.all, c.fault) := by
  obtain ⟨head, rest, fault⟩ := c
  unfold ofSource
  constructor
  · intro h
    split at h
    · rename_i hs
      cases h
      exact hs
    · cases h
    · cases h
  · intro h
    rw [h]
    rfl

/-- Among the tokens of a text the parser starts at the first. -/
theorem ofSource_of_tokenize {source : String} {t : Token} {ts : List Token}
    (h : tokenize source = .ok (t :: ts)) : ofSource source = .ok ⟨t, ts, none⟩ :=
  ofSource_eq_ok_iff.2 (tokenize_eq_ok_iff.1 h)

/-- A place at the end of the input is behind all other tokens of a text without a fault. -/
theorem Leads.tokenize_eq {source : String} {c c' : Tokens} {ts : List Token}
    (hc : ofSource source = .ok c) (l : c.Leads ts c') (he : c'.head.kind = .eof) :
    tokenize source = .ok (ts ++ [c'.head]) := by
  rw [ofSource_eq_ok_iff] at hc
  have hmem : c'.head ∈ (Cursor.start source).scan.1 := by
    rw [hc, l.1]
    simp [all]
  cases hf : c.fault with
  | some e =>
    have := Cursor.scan_of_some (Cursor.start source) (e := e) (by rw [hc, ← hf])
    exact absurd he (this _ hmem)
  | none =>
    obtain ⟨us, last, hs, hl, hus⟩ := Cursor.scan_of_none (Cursor.start source) (by rw [hc, ← hf])
    have hall : ts ++ (c'.head :: c'.rest) = us ++ [last] := by
      rw [← hs, hc]
      exact l.1.symm
    -- the end of the input is no token of `us`, so nothing follows it
    have hrest : c'.rest = [] := by
      rcases List.eq_nil_or_concat c'.rest with h | ⟨init, t, h⟩
      · exact h
      · rw [h, List.concat_eq_append,
          show ts ++ (c'.head :: (init ++ [t])) = (ts ++ c'.head :: init) ++ [t] by simp] at hall
        have := (List.append_inj' hall rfl).1
        exact absurd he (hus _ (by rw [← this]; simp))
    rw [tokenize_eq_ok_iff, hc, hf, l.1]
    simp only [all, hrest]

/-- Among the tokens of a text without a fault the first is a place, and so is the end of the input. -/
theorem exists_leads_of_tokenize {source : String} {ts : List Token} {last : Token}
    (h : tokenize source = .ok (ts ++ [last])) :
    ∃ c, ofSource source = .ok c ∧ c.Leads ts ⟨last, [], none⟩ := by
  have hs := tokenize_eq_ok_iff.1 h
  cases ts with
  | nil => exact ⟨⟨last, [], none⟩, ofSource_eq_ok_iff.2 hs, .refl _⟩
  | cons t ts => exact ⟨⟨t, ts ++ [last], none⟩, ofSource_eq_ok_iff.2 hs, rfl, rfl⟩

end Tokens

namespace Expr

theorem parse_eq (source : String) : parse source = (do
    let c ← Tokens.ofSource source
    let (e, c₁) ← pipelineAt c
    if c₁.head.kind.isEof then return e else throw (c₁.unexpected .endOfInput)) := by
  unfold parse pipelineAt
  simp only [bind_unbounded]

/-- What the parser gives is well stratified and spelled by the tokens of the text. -/
theorem parse_sound {source : String} {e : Expr} (h : parse source = .ok e) :
    ∃ ts last, tokenize source = .ok (ts ++ [last]) ∧ last.kind = .eof ∧
      SpelledText e ts ∧ StratifiedText e := by
  rw [parse_eq] at h
  obtain ⟨c, hc, h⟩ := bind_eq_ok_iff.1 h
  obtain ⟨⟨e', c'⟩, hp, h⟩ := bind_eq_ok_iff.1 h
  dsimp only at h
  split at h
  · rename_i he
    cases h
    have he := TokenKind.isEof_iff.1 he
    obtain ⟨ts, l, s, st⟩ := pipeline_sound hp
    exact ⟨ts, c'.head, l.tokenize_eq hc he, he, s, st⟩
  · cases h

/-- Only the last of the tokens of a text with a tree is the end of the input. -/
theorem scan_of_parse {source : String} {e : Expr} (h : parse source = .ok e) :
    ∃ ts last, (Cursor.start source).scan = (ts ++ [last], none) ∧ last.kind = .eof ∧
      (∀ t ∈ ts, t.kind ≠ .eof) ∧ SpelledText e ts ∧ StratifiedText e := by
  obtain ⟨ts, last, htokens, hlast, hs, st⟩ := parse_sound h
  have hscan := tokenize_eq_ok_iff.1 htokens
  obtain ⟨us, last', hus, -, hne⟩ := Cursor.scan_of_none (Cursor.start source) (by rw [hscan])
  rw [hscan] at hus
  obtain ⟨rfl, -⟩ := List.append_inj' hus rfl
  exact ⟨ts, last, hscan, hlast, hne, hs, st⟩

/-- The parser finds the well stratified tree that the tokens of a text spell. -/
theorem parse_complete {source : String} {e : Expr} {ts : List Token} {last : Token}
    (ht : tokenize source = .ok (ts ++ [last])) (hl : last.kind = .eof) (s : SpelledText e ts)
    (st : StratifiedText e) : parse source = .ok e := by
  obtain ⟨c, hc, l⟩ := Tokens.exists_leads_of_tokenize ht
  rw [parse_eq, hc]
  simp only [bind, Except.bind]
  rw [pipelineAt_complete s st l hl]
  simp only
  rw [if_pos (TokenKind.isEof_iff.2 hl)]
  rfl

/-- A text of one token has the tree that the token spells. -/
theorem parse_of_scan {source : String} {e : Expr} {t last : Token}
    (h : (Cursor.start source).scan = ([t, last], none)) (hl : last.kind = .eof)
    (s : Spelled e [t]) (st : e.Stratified) : parse source = .ok e := by
  have st : StratifiedText e := by
    cases e with
    | pipeline => cases s
    | _ => exact st
  exact parse_complete (tokenize_eq_ok_iff.2 h) hl (.expression s) st

/-- The parser accepts exactly the texts whose tokens, up to the end of the input, are a linearisation
    of a well stratified tree, and it gives that tree. -/
theorem parse_eq_ok_iff (source : String) (e : Expr) :
    parse source = .ok e ↔ ∃ ts last, tokenize source = .ok (ts ++ [last]) ∧ last.kind = .eof ∧
      SpelledText e ts ∧ StratifiedText e := by
  constructor
  · exact parse_sound
  · rintro ⟨ts, last, ht, hl, s, st⟩
    exact parse_complete ht hl s st

/-- The tokens of a callback -/
theorem tokenize_callback : tokenize "a.map(x => b[x])" = .ok [⟨.name "a", "a", 0⟩,
    ⟨.punct .dot, ".", 1⟩, ⟨.name "map", "map", 2⟩, ⟨.punct .openParen, "(", 5⟩,
    ⟨.name "x", "x", 6⟩, ⟨.arrow, "=>", 8⟩, ⟨.name "b", "b", 11⟩, ⟨.punct .openBracket, "[", 12⟩,
    ⟨.name "x", "x", 13⟩, ⟨.punct .closeBracket, "]", 14⟩, ⟨.punct .closeParen, ")", 15⟩,
    ⟨.eof, "", 16⟩] := by
  rw [tokenize_eq_ok_iff]
  iterate 11 refine Cursor.scan_cons rfl rfl ?_
  exact Cursor.scan_last rfl rfl

/-- The tree of a callback -/
theorem parse_callback : parse "a.map(x => b[x])" = .ok (.call (.member (.ofName "a") "map")
    [.arrow [.ofName "x"] (.index (.ofName "b") (.ofName "x"))]) := by
  rw [parse, Tokens.ofSource_of_tokenize tokenize_callback]
  cbv

end Expr

end DataBinding
