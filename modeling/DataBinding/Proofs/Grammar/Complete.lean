import DataBinding.Proofs.Grammar.Sound

/-!
# What the parser finds

Where tokens that spell a well stratified tree lie ahead, and what follows them cannot go on with it,
every function of the parser at or above the level of the tree gives that tree and leaves what follows.

Results:

* `Expr.complete`: what every level of the parser finds, by induction on the tree.
* `Expr.listAt_complete`, `Expr.entriesAt_complete`: what the parsers of bracketed forms find.
-/

namespace DataBinding

namespace Tokens

/-- There is a place between two parts of what lies ahead. -/
theorem Leads.split {c c' : Tokens} {ts us : List Token} (h : c.Leads (ts ++ us) c') :
    ∃ c₁, c.Leads ts c₁ ∧ c₁.Leads us c' := by
  induction ts generalizing c with
  | nil => exact ⟨c, .refl c, h⟩
  | cons t ts ih =>
    obtain ⟨c₁, h₁, l₁⟩ := h.skip
    obtain ⟨c₂, l₂, l₃⟩ := ih l₁
    have ht := leads_of_skip h₁
    rw [h.head_eq] at ht
    exact ⟨c₂, ht.cons l₂, l₃⟩

theorem Leads.eq_of_nil {c c' : Tokens} (h : c.Leads [] c') : c = c' := by
  obtain ⟨head, rest, fault⟩ := c
  obtain ⟨head', rest', fault'⟩ := c'
  obtain ⟨ha, hf⟩ := h
  obtain ⟨rfl, rfl⟩ := List.cons.inj ha
  cases hf
  rfl

theorem Leads.skip_eq {c c' : Tokens} {t : Token} (h : c.Leads [t] c') : c.skip = .ok c' := by
  obtain ⟨c₁, h₁, l₁⟩ := h.skip
  rw [h₁, l₁.eq_of_nil]

/-- No access, no call and no mark of an arrow function is ahead. -/
structure Rests (c : Tokens) : Prop where
  dot : c.atPunct .dot = false
  openBracket : c.atPunct .openBracket = false
  openParen : c.atPunct .openParen = false
  arrow : c.atArrow = false

theorem rests_of_punct {c : Tokens} {p : Punct} (h : c.head.kind = .punct p)
    (hp : p ≠ .dot ∧ p ≠ .openBracket ∧ p ≠ .openParen) : c.Rests := by
  constructor <;> rw [Bool.eq_false_iff] <;> simp [h, hp]

theorem rests_of_operator {c : Tokens} {o : Operator} (h : c.head.kind = .operator o) : c.Rests := by
  constructor <;> rw [Bool.eq_false_iff] <;> simp [h]

theorem stops_of_ne_operator {c : Tokens} (h : ∀ o, c.head.kind ≠ .operator o) : c.Stops := by
  refine ⟨Option.eq_none_iff_forall_ne_some.2 fun op hop => h _ (binary?_eq_some_iff.1 hop), ?_⟩
  rw [Bool.eq_false_iff]
  exact fun hq => h _ (atOperator_iff.1 hq)

theorem stops_of_punct {c : Tokens} {p : Punct} (h : c.head.kind = .punct p) : c.Stops :=
  stops_of_ne_operator (by simp [h])

end Tokens

namespace Expr

open Tokens

/-! ## Where a function stops -/

theorem accessesAt_of_rests (e : Expr) {c : Tokens} (h : c.Rests) : accessesAt e c = .ok (e, c) := by
  rw [accessesAt_eq, h.dot, h.openBracket, h.openParen]
  rfl

theorem operatorsAt_of_le {least : Nat} (e : Expr) {c : Tokens}
    (h : ∀ op, c.binary? = some op → op.precedence ≤ least) :
    operatorsAt least e c = .ok (e, c) := by
  rw [operatorsAt_eq]
  cases hb : c.binary? with
  | none => rfl
  | some op =>
    simp only [h op hb, if_true]
    rfl

theorem postfixAt_of_primaryAt {e : Expr} {c c' : Tokens} (h : primaryAt c = .ok (e, c'))
    (he : e.endsInArrow = false) : postfixAt c = accessesAt e c' := by
  rw [postfixAt_eq, h]
  cases e with
  | arrow => cases he
  | _ => rfl

theorem postfixAt_of_primaryAt_arrow {params : List Symbol} {body : Expr} {c c' : Tokens}
    (h : primaryAt c = .ok (.arrow params body, c')) :
    postfixAt c = .ok (.arrow params body, c') := by
  rw [postfixAt_eq, h]
  rfl

theorem unaryAt_of_ne_operator {c : Tokens} (h : ∀ o, c.head.kind ≠ .operator o) :
    unaryAt c = postfixAt c := by
  rw [unaryAt_eq]
  cases hu : c.unary? with
  | none => rfl
  | some op => exact absurd (unary?_eq_some_iff.1 hu) (h _)

theorem paramsOf?_map (params : List Symbol) : paramsOf? (params.map .symbol) = some params := by
  induction params with
  | nil => rfl
  | cons s rest ih => simp [paramsOf?, ih]

/-! ## One specification for each level -/

/-- What the levels of the parser find where the tokens of a tree lie ahead. -/
structure Complete (e : Expr) : Prop where
  chain : ∀ {ts c c'}, Spelled e ts → e.Stratified → e.tightness = postfixLevel →
    c.Leads ts c' → c'.atArrow = false → postfixAt c = accessesAt e c'
  unary : ∀ {ts c c'}, Found e ts c' → unaryLevel ≤ e.tightness → c.Leads ts c' → c'.Rests →
    unaryAt c = .ok (e, c')
  binary : ∀ {least ts c c'}, Found e ts c' → least < e.tightness → c.Leads ts c' → c'.Rests →
    (∀ op, c'.binary? = some op → op.precedence ≤ e.tightness) →
    binaryAt least c = operatorsAt least e c'
  expression : ∀ {ts c c'}, Spelled e ts → e.Stratified → c.Leads ts c' → c'.Rests → c'.Stops →
    expressionAt c = .ok (e, c')

/-! ## Lists -/

theorem not_atPunct_of_isOpening {c : Tokens} {p : Punct} (h : IsOpening c.head)
    (hp : p = .closeParen ∨ p = .closeBracket ∨ p = .closeBrace) : c.atPunct p = false := by
  rw [Bool.eq_false_iff]
  intro ha
  have := h p (atPunct_iff.1 ha)
  rcases hp with rfl | rfl | rfl <;> simp at this

theorem listAt_complete {close : Punct} (hclose : close = .closeParen ∨ close = .closeBracket)
    {es : List Expr} (hes : ∀ e ∈ es, Complete e) {xs : List Token} {closing : Token}
    {c c' : Tokens} (s : SpelledList es xs) (st : StratifiedList es)
    (hc : closing.kind = .punct close) (l : c.Leads (xs ++ [closing]) c') :
    listAt close c = .ok (es, c') := by
  have hp : close ≠ .dot ∧ close ≠ .openBracket ∧ close ≠ .openParen := by
    rcases hclose with rfl | rfl <;> simp
  induction es generalizing xs c with
  | nil =>
    cases s
    rw [listAt_eq, if_pos (atPunct_iff.2 (l.head_eq ▸ hc)), l.skip_eq]
    rfl
  | cons e es ih =>
    have he := hes e List.mem_cons_self
    have notClosed : ∀ {ts us : List Token}, Spelled e ts → c.Leads (ts ++ us) c' →
        ¬ c.atPunct close = true := by
      intro ts us s l
      obtain ⟨t, rest, rfl, ht⟩ := s.exists_cons
      rw [← l.head_eq] at ht
      rw [not_atPunct_of_isOpening ht (hclose.imp_right .inl)]
      simp
    cases s with
    | last s =>
      obtain ⟨c₁, l₁, l₂⟩ := l.split
      have hk : c₁.head.kind = .punct close := l₂.head_eq ▸ hc
      rw [listAt_eq, if_neg (notClosed s l),
        he.expression s st.1 l₁ (rests_of_punct hk hp) (stops_of_punct hk)]
      simp only [bind, Except.bind]
      rw [if_pos (atPunct_iff.2 hk), l₂.skip_eq]
      rfl
    | @cons _ _ ts us comma s hm s' =>
      rw [List.append_assoc] at l
      obtain ⟨c₁, l₁, l₂⟩ := l.split
      obtain ⟨c₂, h₂, l₃⟩ := l₂.skip
      have hk : c₁.head.kind = .punct .comma := l₂.head_eq ▸ hm
      have hcl : ¬ c₁.atPunct close = true := by
        rw [atPunct_iff, hk]
        rcases hclose with rfl | rfl <;> simp
      rw [listAt_eq, if_neg (notClosed s l),
        he.expression s st.1 l₁ (rests_of_punct hk (by simp)) (stops_of_punct hk)]
      simp only [bind, Except.bind]
      rw [if_neg hcl, skipPunct_eq_ok_iff.2 ⟨hk, h₂⟩]
      simp only
      rw [ih (fun e' h => hes e' (List.mem_cons_of_mem _ h)) s' st.2 l₃]
      rfl

theorem entriesAt_complete {es : List (ObjectKey × Expr)} (hes : ∀ e ∈ es, Complete e.2)
    {xs : List Token} {closing : Token} {c c' : Tokens} (s : SpelledEntries es xs)
    (st : StratifiedEntries es) (hc : closing.kind = .punct .closeBrace)
    (l : c.Leads (xs ++ [closing]) c') : entriesAt c = .ok (es, c') := by
  induction es generalizing xs c with
  | nil =>
    cases s
    rw [entriesAt_eq, if_pos (atPunct_iff.2 (l.head_eq ▸ hc)), l.skip_eq]
    rfl
  | cons entry es ih =>
    obtain ⟨key, e⟩ := entry
    have he := hes _ List.mem_cons_self
    have keyAhead : ∀ {t : Token} {us : List Token}, t.Is key.kind key.raw → c.Leads (t :: us) c' →
        ¬ c.atPunct .closeBrace = true ∧ c.head.objectKey? = some key := by
      intro t us ht l
      have hk := Token.objectKey?_eq_some_iff.2 ⟨ht, st.1⟩
      rw [← l.head_eq] at hk
      refine ⟨fun ha => ?_, hk⟩
      simp [Token.objectKey?, atPunct_iff.1 ha, Token.literal?] at hk
    cases s with
    | @last _ _ t colon ts ht hm s =>
      obtain ⟨hcl, hkey⟩ := keyAhead ht l
      obtain ⟨c₁, h₁, l₁⟩ := l.skip
      obtain ⟨c₂, h₂, l₂⟩ := l₁.skip
      obtain ⟨c₃, l₃, l₄⟩ := l₂.split
      have hk : c₃.head.kind = .punct .closeBrace := l₄.head_eq ▸ hc
      rw [entriesAt_eq, if_neg hcl, hkey]
      simp only [bind, Except.bind, h₁]
      rw [skipPunct_eq_ok_iff.2 ⟨l₁.head_eq ▸ hm, h₂⟩]
      simp only
      rw [he.expression s st.2.1 l₃ (rests_of_punct hk (by simp)) (stops_of_punct hk)]
      simp only
      rw [if_pos (atPunct_iff.2 hk), l₄.skip_eq]
      rfl
    | @cons _ _ _ t colon comma ts us ht hm s hcomma s' =>
      simp only [List.cons_append, List.append_assoc] at l
      obtain ⟨hcl, hkey⟩ := keyAhead ht l
      obtain ⟨c₁, h₁, l₁⟩ := l.skip
      obtain ⟨c₂, h₂, l₂⟩ := l₁.skip
      obtain ⟨c₃, l₃, l₄⟩ := l₂.split
      obtain ⟨c₄, h₄, l₅⟩ := l₄.skip
      have hk : c₃.head.kind = .punct .comma := l₄.head_eq ▸ hcomma
      have hcl' : ¬ c₃.atPunct .closeBrace = true := by simp [hk]
      rw [entriesAt_eq, if_neg hcl, hkey]
      simp only [bind, Except.bind, h₁]
      rw [skipPunct_eq_ok_iff.2 ⟨l₁.head_eq ▸ hm, h₂⟩]
      simp only
      rw [he.expression s st.2.1 l₃ (rests_of_punct hk (by simp)) (stops_of_punct hk)]
      simp only
      rw [if_neg hcl', skipPunct_eq_ok_iff.2 ⟨hk, h₄⟩]
      simp only
      rw [ih (fun e' h => hes e' (List.mem_cons_of_mem _ h)) s' st.2.2 l₅]
      rfl

/-! ## Primary expressions -/

theorem primaryAt_of_literal {l : Literal} {c c₁ : Tokens} (h : c.head.literal? = some l)
    (h₁ : c.skip = .ok c₁) : primaryAt c = .ok (.literal l, c₁) := by
  have hs : c.head.symbol? = none := by
    cases hk : c.head.kind <;> simp [Token.literal?, Token.symbol?, hk] at h ⊢
  rw [primaryAt_eq]
  split
  · simp [Token.literal?, *] at h
  · simp [Token.literal?, *] at h
  · simp [Token.literal?, *] at h
  · rw [hs, h, h₁]
    rfl

theorem primaryAt_of_symbol {s : Symbol} {c c₁ : Tokens} (h : c.head.symbol? = some s)
    (h₁ : c.skip = .ok c₁) (ha : c₁.atArrow = false) : primaryAt c = .ok (.symbol s, c₁) := by
  rw [primaryAt_eq]
  split
  · simp [Token.symbol?, *] at h
  · simp [Token.symbol?, *] at h
  · simp [Token.symbol?, *] at h
  · rw [h, h₁]
    simp [bind, Except.bind, ha, pure, Except.pure]

theorem primaryAt_of_bareArrow {s : Symbol} {body : Expr} {c c₁ c₂ c₃ : Tokens}
    (h : c.head.symbol? = some s) (h₁ : c.skip = .ok c₁) (ha : c₁.head.kind = .arrow)
    (h₂ : c₁.skip = .ok c₂) (h₃ : expressionAt c₂ = .ok (body, c₃)) :
    primaryAt c = .ok (.arrow [s] body, c₃) := by
  rw [primaryAt_eq]
  split
  · simp [Token.symbol?, *] at h
  · simp [Token.symbol?, *] at h
  · simp [Token.symbol?, *] at h
  · rw [h, h₁]
    simp only [bind, Except.bind]
    rw [if_pos (atArrow_iff.2 ha), h₂]
    simp only
    rw [h₃]
    rfl

theorem primaryAt_of_arrow {params : List Symbol} {body : Expr} {c c₁ c₂ c₃ c₄ : Tokens}
    (ho : c.head.kind = .punct .openParen) (h₁ : c.skip = .ok c₁)
    (h₂ : listAt .closeParen c₁ = .ok (params.map .symbol, c₂)) (ha : c₂.head.kind = .arrow)
    (h₃ : c₂.skip = .ok c₃) (h₄ : expressionAt c₃ = .ok (body, c₄)) :
    primaryAt c = .ok (.arrow params body, c₄) := by
  rw [primaryAt_eq, ho]
  simp only [bind, Except.bind, h₁, h₂]
  rw [if_pos (atArrow_iff.2 ha), h₃]
  simp only
  rw [paramsOf?_map]
  simp only
  rw [h₄]
  rfl

theorem primaryAt_of_parens {inner : Expr} {c c₁ c₂ : Tokens}
    (ho : c.head.kind = .punct .openParen) (h₁ : c.skip = .ok c₁)
    (h₂ : listAt .closeParen c₁ = .ok ([inner], c₂)) (ha : c₂.atArrow = false) :
    primaryAt c = .ok (.parens inner, c₂) := by
  rw [primaryAt_eq, ho]
  simp [bind, Except.bind, h₁, h₂, ha, pure, Except.pure]

theorem primaryAt_of_array {elements : List Expr} {c c₁ c₂ : Tokens}
    (ho : c.head.kind = .punct .openBracket) (h₁ : c.skip = .ok c₁)
    (h₂ : listAt .closeBracket c₁ = .ok (elements, c₂)) :
    primaryAt c = .ok (.array elements, c₂) := by
  rw [primaryAt_eq, ho]
  simp [bind, Except.bind, h₁, h₂, pure, Except.pure]

theorem primaryAt_of_object {entries : List (ObjectKey × Expr)} {c c₁ c₂ : Tokens}
    (ho : c.head.kind = .punct .openBrace) (h₁ : c.skip = .ok c₁)
    (h₂ : entriesAt c₁ = .ok (entries, c₂)) : primaryAt c = .ok (.object entries, c₂) := by
  rw [primaryAt_eq, ho]
  simp [bind, Except.bind, h₁, h₂, pure, Except.pure]

/-! ## The levels -/

section

variable {e : Expr} (ih : ∀ child ∈ e.children, Complete child)

include ih

theorem postfixAt_complete {ts : List Token} {c c' : Tokens} (s : Spelled e ts) (st : e.Stratified)
    (hl : e.tightness = postfixLevel) (l : c.Leads ts c') (ha : c'.atArrow = false) :
    postfixAt c = accessesAt e c' := by
  cases s with
  | literal h =>
    exact postfixAt_of_primaryAt (primaryAt_of_literal
      (Token.literal?_eq_some_iff.2 (l.head_eq ▸ h)) l.skip_eq) rfl
  | symbol h =>
    exact postfixAt_of_primaryAt (primaryAt_of_symbol
      (Token.symbol?_eq_some_iff.2 (l.head_eq ▸ h)) l.skip_eq ha) rfl
  | member s hd ht =>
    obtain ⟨c₁, l₁, l₂⟩ := l.split
    obtain ⟨c₂, h₂, l₃⟩ := l₂.skip
    have hk : c₁.head.kind = .punct .dot := l₂.head_eq ▸ hd
    have hk₂ := l₃.head_eq ▸ ht
    rw [(ih _ (by simp [children])).chain s st.1 (tightness_eq_postfixLevel st.2.1 st.2.2) l₁
      (by rw [Bool.eq_false_iff]; simp [hk]), accessesAt_eq, if_pos (atPunct_iff.2 hk), h₂]
    simp only [bind, Except.bind]
    rw [hk₂]
    simp only
    rw [l₃.skip_eq]
  | index s ho hk hc =>
    obtain ⟨c₁, l₁, l₂⟩ := l.split
    obtain ⟨c₂, h₂, l₃⟩ := l₂.skip
    obtain ⟨c₃, l₄, l₅⟩ := l₃.split
    have hk₁ : c₁.head.kind = .punct .openBracket := l₂.head_eq ▸ ho
    have hk₃ : c₃.head.kind = .punct .closeBracket := l₅.head_eq ▸ hc
    rw [(ih _ (by simp [children])).chain s st.1 (tightness_eq_postfixLevel st.2.2.1 st.2.2.2) l₁
      (by rw [Bool.eq_false_iff]; simp [hk₁]), accessesAt_eq, if_neg (by simp [hk₁]),
      if_pos (atPunct_iff.2 hk₁), h₂]
    simp only [bind, Except.bind]
    rw [(ih _ (by simp [children])).expression hk st.2.1 l₄ (rests_of_punct hk₃ (by simp))
      (stops_of_punct hk₃)]
    simp only
    rw [skipPunct_eq_ok_iff.2 ⟨hk₃, l₅.skip_eq⟩]
  | call s ho hx hc =>
    obtain ⟨c₁, l₁, l₂⟩ := l.split
    obtain ⟨c₂, h₂, l₃⟩ := l₂.skip
    have hk₁ : c₁.head.kind = .punct .openParen := l₂.head_eq ▸ ho
    rw [(ih _ (by simp [children])).chain s st.1 (tightness_eq_postfixLevel st.2.2.1 st.2.2.2) l₁
      (by rw [Bool.eq_false_iff]; simp [hk₁]), accessesAt_eq, if_neg (by simp [hk₁]),
      if_neg (by simp [hk₁]), if_pos (atPunct_iff.2 hk₁), h₂]
    simp only [bind, Except.bind]
    rw [listAt_complete (.inl rfl) (fun e he => ih e (by simp [children, he])) hx st.2.1 hc l₃]
  | array ho hx hc =>
    obtain ⟨c₁, h₁, l₁⟩ := l.skip
    exact postfixAt_of_primaryAt (primaryAt_of_array (l.head_eq ▸ ho) h₁
      (listAt_complete (.inr rfl) ih hx st hc l₁)) rfl
  | object ho hx hc =>
    obtain ⟨c₁, h₁, l₁⟩ := l.skip
    exact postfixAt_of_primaryAt (primaryAt_of_object (l.head_eq ▸ ho) h₁
      (entriesAt_complete (fun e he => ih e.2 (List.mem_map_of_mem he)) hx st hc l₁)) rfl
  | parens ho hx hc =>
    obtain ⟨c₁, h₁, l₁⟩ := l.skip
    exact postfixAt_of_primaryAt (primaryAt_of_parens (l.head_eq ▸ ho) h₁
      (listAt_complete (.inl rfl) ih hx ⟨st, trivial⟩ hc l₁) ha) rfl
  | conditional | unary | arrow | bareArrow =>
    simp [tightness, conditionalLevel, unaryLevel, arrowLevel, postfixLevel] at hl
  | @binary op => cases op <;> simp [tightness, BinaryOp.precedence, postfixLevel] at hl

theorem unaryAt_complete_of_chain {ts : List Token} {c c' : Tokens} (s : Spelled e ts)
    (st : e.Stratified) (hl : e.tightness = postfixLevel) (l : c.Leads ts c') (hr : c'.Rests) :
    unaryAt c = .ok (e, c') := by
  obtain ⟨t, rest, rfl, ht⟩ := s.exists_cons_ne_operator st (Nat.le_of_eq hl.symm)
  rw [unaryAt_of_ne_operator (l.head_eq ▸ ht), postfixAt_complete ih s st hl l hr.arrow,
    accessesAt_of_rests e hr]

end

/-- What is found as an operand of unary operators is found at the levels above. -/
theorem complete_of_unary {e : Expr}
    (hp : ∀ {ts c c'}, Spelled e ts → e.Stratified → e.tightness = postfixLevel →
      c.Leads ts c' → c'.atArrow = false → postfixAt c = accessesAt e c')
    (hu : ∀ {ts c c'}, Found e ts c' → c.Leads ts c' → c'.Rests → unaryAt c = .ok (e, c')) :
    Complete e where
  chain := hp
  unary f _ l hr := hu f l hr
  binary f _ l hr _ := by
    rw [binaryAt_eq, hu f l hr]
    rfl
  expression s st l hr hs := by
    rw [expressionAt_eq, binaryAt_eq, hu ⟨s, st, fun _ => hs⟩ l hr]
    simp only [bind, Except.bind]
    rw [operatorsAt_of_le e (by simp [hs.1])]
    simp [hs.2, pure, Except.pure]

theorem complete_symbol (s : Symbol) : Complete (.symbol s) :=
  have ih : ∀ child ∈ (Expr.symbol s).children, Complete child := by simp [children]
  complete_of_unary (postfixAt_complete ih)
    fun f l hr => unaryAt_complete_of_chain ih f.spelled f.stratified rfl l hr

theorem primaryAt_complete_arrow {params : List Symbol} {body : Expr} {ts : List Token}
    {c c' : Tokens} (hb : Complete body) (s : Spelled (.arrow params body) ts)
    (st : body.Stratified) (l : c.Leads ts c') (hr : c'.Rests) (hs : c'.Stops) :
    primaryAt c = .ok (.arrow params body, c') := by
  cases s with
  | @arrow _ _ xs ts opening closing mark ho hx hc hm h =>
    obtain ⟨c₁, h₁, l₁⟩ := l.skip
    rw [show xs ++ closing :: mark :: ts = xs ++ [closing] ++ mark :: ts by simp] at l₁
    obtain ⟨c₂, l₂, l₃⟩ := l₁.split
    obtain ⟨c₃, h₃, l₄⟩ := l₃.skip
    have hps : ∀ e ∈ params.map Expr.symbol, Complete e := by
      intro e he
      obtain ⟨s, -, rfl⟩ := List.mem_map.1 he
      exact complete_symbol s
    exact primaryAt_of_arrow (l.head_eq ▸ ho) h₁
      (listAt_complete (.inl rfl) hps hx (stratifiedList_map_symbol params) hc l₂)
      (l₃.head_eq ▸ hm) h₃ (hb.expression h st l₄ hr hs)
  | bareArrow ht hm h =>
    obtain ⟨c₁, h₁, l₁⟩ := l.skip
    obtain ⟨c₂, h₂, l₂⟩ := l₁.skip
    exact primaryAt_of_bareArrow (Token.symbol?_eq_some_iff.2 (l.head_eq ▸ ht)) h₁
      (l₁.head_eq ▸ hm) h₂ (hb.expression h st l₂ hr hs)

theorem complete_arrow {params : List Symbol} {body : Expr} (hb : Complete body) :
    Complete (.arrow params body) := by
  refine complete_of_unary (fun _ _ hl => ?_) fun f l hr => ?_
  · simp [tightness, arrowLevel, postfixLevel] at hl
  · obtain ⟨t, rest, rfl, ht⟩ :=
      f.spelled.exists_cons_ne_operator f.stratified (by decide : postfixLevel ≤ arrowLevel)
    rw [unaryAt_of_ne_operator (l.head_eq ▸ ht), postfixAt_of_primaryAt_arrow
      (primaryAt_complete_arrow hb f.spelled f.stratified l hr (f.stops rfl))]

theorem complete_unary {op : UnaryOp} {operand : Expr} (hx : Complete operand) :
    Complete (.unary op operand) := by
  refine complete_of_unary (fun _ _ hl => ?_) fun f l hr => ?_
  · simp [tightness, unaryLevel, postfixLevel] at hl
  · obtain ⟨hs, st, hstop⟩ := f
    cases hs with
    | unary ht s =>
      obtain ⟨c₁, h₁, l₁⟩ := l.skip
      rw [unaryAt_eq, unary?_eq_some_iff.2 (l.head_eq ▸ ht), h₁]
      simp only [bind, Except.bind]
      rw [hx.unary ⟨s, st.1, hstop⟩ st.2 l₁ hr]
      rfl

theorem complete_binary {op : BinaryOp} {left right : Expr} (hl : Complete left)
    (hr : Complete right) : Complete (.binary op left right) := by
  have hb : ∀ {least ts c c'}, Found (.binary op left right) ts c' → least < op.precedence →
      c.Leads ts c' → c'.Rests → (∀ op', c'.binary? = some op' → op'.precedence ≤ op.precedence) →
      binaryAt least c = operatorsAt least (.binary op left right) c' := by
    intro least ts c c' ⟨hs, ⟨stl, str, hpl, hpr, ha⟩, hstop⟩ hlt l hrest hop
    cases hs with
    | binary sl ht sr =>
      obtain ⟨c₁, l₁, l₂⟩ := l.split
      obtain ⟨c₂, h₂, l₃⟩ := l₂.skip
      have hk := l₂.head_eq ▸ ht
      have hop₁ : ∀ op', c₁.binary? = some op' → op'.precedence ≤ left.tightness := by
        intro op' h'
        rw [binary?_eq_some_iff, hk] at h'
        cases h'
        exact hpl
      rw [hl.binary ⟨sl, stl, by simp [ha]⟩ (Nat.lt_of_lt_of_le hlt hpl) l₁
        (rests_of_operator hk) hop₁, operatorsAt_eq, binary?_eq_some_iff.2 hk]
      simp only
      rw [if_neg (Nat.not_le.2 hlt), h₂]
      simp only [bind, Except.bind]
      rw [hr.binary ⟨sr, str, hstop⟩ hpr l₃ hrest
        fun op' h' => Nat.le_trans (hop op' h') (Nat.le_of_lt hpr), operatorsAt_of_le right hop]
  have hlevel : op.precedence < unaryLevel := by cases op <;> decide
  refine ⟨fun _ _ h => ?_, fun _ h => ?_, fun f hlt l hrest hop => hb f hlt l hrest hop,
    fun s st l hrest hs => ?_⟩
  · exact absurd (h ▸ hlevel) (by decide : ¬ postfixLevel < unaryLevel)
  · exact absurd (Nat.lt_of_le_of_lt h hlevel) (Nat.lt_irrefl _)
  · have hpos : 0 < op.precedence := by cases op <;> decide
    rw [expressionAt_eq, hb ⟨s, st, fun _ => hs⟩ hpos l hrest (by simp [hs.1]),
      operatorsAt_of_le _ (by simp [hs.1])]
    simp [bind, Except.bind, hs.2, pure, Except.pure]

theorem complete_conditional {condition yes alternative : Expr} (hc : Complete condition)
    (hy : Complete yes) (ha : Complete alternative) :
    Complete (.conditional condition yes alternative) := by
  refine ⟨fun _ _ h => ?_, fun _ h => ?_, fun _ h => ?_, fun s st l hr hs => ?_⟩
  · simp [tightness, conditionalLevel, postfixLevel] at h
  · simp [tightness, conditionalLevel, unaryLevel] at h
  · exact absurd h (Nat.not_lt_zero _)
  · obtain ⟨stc, sty, sta, hlt, hca⟩ := st
    cases s with
    | conditional sc hq sy hm sa =>
      obtain ⟨c₁, l₁, l₂⟩ := l.split
      obtain ⟨c₂, h₂, l₃⟩ := l₂.skip
      obtain ⟨c₃, l₄, l₅⟩ := l₃.split
      obtain ⟨c₄, h₄, l₆⟩ := l₅.skip
      have hk₁ : c₁.head.kind = .operator .question := l₂.head_eq ▸ hq
      have hk₃ : c₃.head.kind = .punct .colon := l₅.head_eq ▸ hm
      have hb : ∀ op, c₁.binary? ≠ some op := by
        intro op h
        rw [binary?_eq_some_iff, hk₁] at h
        cases h
      have hlt : 0 < condition.tightness := hlt
      rw [expressionAt_eq, hc.binary ⟨sc, stc, by simp [hca]⟩ hlt l₁ (rests_of_operator hk₁)
        (fun op h => absurd h (hb op)), operatorsAt_of_le _ (fun op h => absurd h (hb op))]
      simp only [bind, Except.bind]
      rw [if_pos (atOperator_iff.2 hk₁), h₂]
      simp only
      rw [hy.expression sy sty l₄ (rests_of_punct hk₃ (by simp)) (stops_of_punct hk₃)]
      simp only
      rw [skipPunct_eq_ok_iff.2 ⟨hk₃, h₄⟩]
      simp only
      rw [ha.expression sa sta l₆ hr hs]
      rfl

/-- A pipeline stands at no level. -/
theorem complete_pipeline (input : Expr) (stages : List (Symbol × List Expr)) :
    Complete (.pipeline input stages) where
  chain s := nomatch s
  unary f := nomatch f.spelled
  binary f := nomatch f.spelled
  expression s := nomatch s

/-- A tree is found if its children are. -/
theorem complete_of_children {e : Expr} (ih : ∀ child ∈ e.children, Complete child) :
    Complete e := by
  have hp : e.tightness = postfixLevel → Complete e := fun h =>
    complete_of_unary (postfixAt_complete ih)
      fun f l hr => unaryAt_complete_of_chain ih f.spelled f.stratified h l hr
  cases e with
  | conditional condition yes alternative =>
    exact complete_conditional (ih _ (by simp [children])) (ih _ (by simp [children]))
      (ih _ (by simp [children]))
  | binary op left right =>
    exact complete_binary (ih _ (by simp [children])) (ih _ (by simp [children]))
  | unary op operand => exact complete_unary (ih _ (by simp [children]))
  | arrow params body => exact complete_arrow (ih _ (by simp [children]))
  | pipeline input stages => exact complete_pipeline input stages
  | _ => exact hp rfl

/-- What every level of the parser finds, by induction on the tree. -/
theorem complete (e : Expr) : Complete e :=
  complete_of_children fun child _h => complete child
termination_by sizeOf e
decreasing_by exact sizeOf_lt_of_mem_children _h

end Expr

end DataBinding
