import DataBinding.Proofs.Grammar.Descent
import DataBinding.Proofs.Grammar.Sound

/-!
# What the descent takes

A run of the descent steps over tokens that stand in front of each other, and the end of the input is none
of them: in front of every step a check has seen another token. The rounds of a loop follow from the
callees that they are given, the levels of the grammar by induction on the allowance.

Results:

* `Descent.TakesFrom`: what a run steps over.
* `Descent.takes`: every call of a level of the grammar that succeeds takes a token.
* `Descent.roundsTake`: every round of a loop takes a token, is the last one or fails.
* `Descent.taken_whole`: no run steps over the end of the input.
-/

namespace DataBinding

namespace Tokens

/-- The last token ahead is the end of the input, unless a fault follows. -/
def Ended (c : Tokens) : Prop :=
  c.fault = none → ∃ ts last, c.all = ts ++ [last] ∧ last.kind = .eof

theorem Leads.ended {c c' : Tokens} {ts : List Token} (h : c.Leads ts c') (hc : c.Ended) : c'.Ended := by
  intro hf
  obtain ⟨us, last, hall, hlast⟩ := hc (h.2.trans hf)
  rcases List.eq_nil_or_concat c'.all with hnil | ⟨init, t, hinit⟩
  · cases hnil
  · rw [List.concat_eq_append] at hinit
    rw [h.1, hinit, ← List.append_assoc] at hall
    obtain ⟨-, ht⟩ := List.append_inj' hall rfl
    cases ht
    exact ⟨init, last, hinit, hlast⟩

/-- Only the end of the input has no token behind it. -/
theorem Ended.rest_ne_nil {c : Tokens} (hc : c.Ended) (hf : c.fault = none) (hk : c.head.kind ≠ .eof) :
    c.rest ≠ [] := by
  intro hr
  obtain ⟨us, last, hall, hlast⟩ := hc hf
  rw [all, hr] at hall
  cases us with
  | nil =>
    cases hall
    exact hk hlast
  | cons u us => simp at hall

end Tokens

namespace Descent

variable {α β : Type}

/-! ## What a run steps over -/

section

variable {s s' s'' : Progress} {ts us : List Token} {x : Descent α} {f : α → Descent β}

/-- The tokens `ts` lie between two places and were stepped over on the way. The end of the input is
    none of them. -/
structure Moves (s : Progress) (ts : List Token) (s' : Progress) : Prop where
  leads : s.ahead.Leads ts s'.ahead
  taken : s'.taken = s.taken ++ ts
  inside : ∀ t ∈ ts, t.kind ≠ .eof

theorem Moves.refl (s : Progress) : Moves s [] s :=
  ⟨.refl _, (List.append_nil _).symm, by simp⟩

theorem Moves.trans (h : Moves s ts s') (h' : Moves s' us s'') : Moves s (ts ++ us) s'' := by
  refine ⟨h.leads.trans h'.leads, by rw [h'.taken, h.taken, List.append_assoc], fun t ht => ?_⟩
  rcases List.mem_append.1 ht with ht | ht
  · exact h.inside t ht
  · exact h'.inside t ht

theorem Moves.size_eq (h : Moves s ts s') : s'.ahead.size + ts.length = s.ahead.size := by
  have hlength := congrArg List.length h.leads.1
  simp only [Tokens.all, List.length_append, List.length_cons] at hlength
  unfold Tokens.size
  omega

/-- Where the tokens end, a run from `s` steps over tokens in front of their end, over at least `least a`
    of them where it gives `a`. -/
def TakesFrom (s : Progress) (x : Descent α) (least : α → Nat) : Prop :=
  s.ahead.Ended → ∀ r s', x.run.run s = some (r, s') →
    ∃ ts, Moves s ts s' ∧ ∀ a, r = .ok a → least a ≤ ts.length

theorem run_bind (x : Descent α) (f : α → Descent β) (s : Progress) :
    (x >>= f).run.run s = (x.run.run s).bind fun
      | (.ok a, s') => (f a).run.run s'
      | (.error e, s') => some (.error e, s') := by
  rw [ExceptT.run_bind, StateT.run_bind]
  cases x.run.run s with
  | none => rfl
  | some r =>
    obtain ⟨e | a, s'⟩ := r <;> rfl

theorem takesFrom_pure {a : α} {least : α → Nat} (h : least a = 0) :
    TakesFrom s (pure a : Descent α) least := by
  intro _ r s' hr
  cases hr
  refine ⟨[], .refl s, fun b hb => ?_⟩
  cases hb
  rw [h]
  exact Nat.zero_le _

theorem TakesFrom.mono {p q : α → Nat} (h : TakesFrom s x p) (hpq : ∀ a, q a ≤ p a) :
    TakesFrom s x q := by
  intro hs r s' hr
  obtain ⟨ts, hm, hp⟩ := h hs r s' hr
  exact ⟨ts, hm, fun a ha => Nat.le_trans (hpq a) (hp a ha)⟩

theorem takesFrom_throw {e : ParseError} {least : α → Nat} :
    TakesFrom s (throw e : Descent α) least := by
  intro _ r s' hr
  cases hr
  exact ⟨[], .refl s, fun b hb => by cases hb⟩

theorem takesFrom_exhausted {least : α → Nat} : TakesFrom s exhausted least := by
  intro _ r s' hr
  cases hr

/-- Runs in a row take what both take. -/
theorem TakesFrom.bind {p : α → Nat} {q : β → Nat} (hx : TakesFrom s x p)
    (hf : ∀ a s', TakesFrom s' (f a) fun b => q b - p a) : TakesFrom s (x >>= f) q := by
  intro hs r s' hr
  rw [run_bind] at hr
  obtain ⟨⟨e | a, s₁⟩, h₁, hr⟩ := Option.bind_eq_some_iff.1 hr
  · cases hr
    obtain ⟨ts, hm, -⟩ := hx hs _ _ h₁
    exact ⟨ts, hm, fun b hb => by cases hb⟩
  · obtain ⟨ts, hm, hp⟩ := hx hs _ _ h₁
    obtain ⟨us, hm', hq⟩ := hf a s₁ (hm.leads.ended hs) _ _ hr
    refine ⟨ts ++ us, hm.trans hm', fun b hb => ?_⟩
    have hpa := hp a rfl
    have hqb : q b - p a ≤ us.length := hq b hb
    rw [List.length_append]
    omega

theorem takesFrom_ahead {g : Tokens → Descent β} {q : β → Nat} (h : TakesFrom s (g s.ahead) q) :
    TakesFrom s (ahead >>= g) q := h

/-- A token that is not the end of the input has one behind it, or a fault. -/
theorem takesFrom_step (hk : s.ahead.head.kind ≠ .eof) : TakesFrom s step fun _ => 1 := by
  intro hs r s' hr
  obtain ⟨⟨head, rest, fault⟩, taken⟩ := s
  have inside : ∀ t ∈ [head], t.kind ≠ .eof := fun t ht => List.mem_singleton.1 ht ▸ hk
  cases rest with
  | cons t rest =>
    cases hr
    exact ⟨[head], ⟨⟨rfl, rfl⟩, rfl, inside⟩, fun _ _ => Nat.le_refl 1⟩
  | nil =>
    cases fault with
    | some e =>
      cases hr
      exact ⟨[], .refl _, fun b hb => by cases hb⟩
    | none => exact absurd rfl (hs.rest_ne_nil rfl hk)

end

/-! ## Rounds and levels take tokens -/

section

variable {s : Progress} {n : Nat}

theorem ne_eof_of_punct {k : TokenKind} {p : Punct} (h : k = .punct p) : k ≠ .eof := by
  rw [h]
  exact TokenKind.noConfusion

theorem ne_eof_of_atPunct {c : Tokens} {p : Punct} (h : c.atPunct p = true) : c.head.kind ≠ .eof :=
  ne_eof_of_punct (Tokens.atPunct_iff.1 h)

theorem ne_eof_of_atOperator {c : Tokens} {o : Operator} (h : c.atOperator o = true) :
    c.head.kind ≠ .eof := by
  rw [Tokens.atOperator_iff.1 h]
  exact TokenKind.noConfusion

theorem ne_eof_of_atArrow {c : Tokens} (h : c.atArrow = true) : c.head.kind ≠ .eof := by
  rw [Tokens.atArrow_iff.1 h]
  exact TokenKind.noConfusion

theorem ne_eof_of_objectKey? {t : Token} {key : ObjectKey} (h : t.objectKey? = some key) :
    t.kind ≠ .eof := by
  intro he
  simp [Token.objectKey?, Token.literal?, he] at h

theorem ne_eof_of_symbol? {t : Token} {symbol : Symbol} (h : t.symbol? = some symbol) :
    t.kind ≠ .eof := by
  intro he
  simp [Token.symbol?, he] at h

theorem ne_eof_of_literal? {t : Token} {l : Literal} (h : t.literal? = some l) : t.kind ≠ .eof := by
  intro he
  simp [Token.literal?, he] at h

theorem ne_eof_of_binary? {c : Tokens} {op : BinaryOp} (h : c.binary? = some op) :
    c.head.kind ≠ .eof := by
  rw [Tokens.binary?_eq_some_iff.1 h]
  exact TokenKind.noConfusion

theorem ne_eof_of_unary? {c : Tokens} {op : UnaryOp} (h : c.unary? = some op) :
    c.head.kind ≠ .eof := by
  rw [Tokens.unary?_eq_some_iff.1 h]
  exact TokenKind.noConfusion

theorem takesFrom_expect (p : Punct) : TakesFrom s (expect p) fun _ => 1 := by
  refine takesFrom_ahead ?_
  split
  · rename_i h
    exact takesFrom_step (ne_eof_of_atPunct h)
  · exact takesFrom_throw

/-- A round takes a token or is the last one. -/
def roundLeast {α : Type} (next : Option α) : Nat := if next.isSome then 1 else 0

/-- A loop takes what its rounds take. -/
theorem takesFrom_loop {α : Type} {round : α → Descent (Option α)}
    (h : ∀ a s, TakesFrom s (round a) roundLeast) (n : Nat) (a : α) :
    TakesFrom s (loop round n a) fun _ => 0 := by
  induction n generalizing a s with
  | zero => exact takesFrom_exhausted
  | succ n ih =>
    refine (h a s).bind fun next s' => ?_
    cases next with
    | none => exact takesFrom_pure rfl
    | some b => exact ih b

theorem takesFrom_operatorRound {operand : Nat → Descent Expr}
    (h : ∀ m s, TakesFrom s (operand m) fun _ => 1) (least : Nat) (left : Expr) (s : Progress) :
    TakesFrom s (operatorRound operand least left) roundLeast := by
  refine takesFrom_ahead ?_
  split
  · exact takesFrom_pure rfl
  · rename_i op hop
    split
    · exact takesFrom_pure rfl
    · refine (takesFrom_step (ne_eof_of_binary? hop)).bind fun _ s₁ =>
        (h op.precedence s₁).bind fun right s₂ => ?_
      exact takesFrom_pure rfl

section

variable {x : Descent Expr} (h : ∀ s, TakesFrom s x fun _ => 1)
include h

theorem takesFrom_itemRound (close : Punct) (items : List Expr) (s : Progress) :
    TakesFrom s (itemRound x close items) roundLeast := by
  refine takesFrom_ahead ?_
  split
  · exact takesFrom_pure rfl
  · refine (h s).bind fun e s₁ => takesFrom_ahead ?_
    split
    · exact takesFrom_pure rfl
    · exact (takesFrom_expect .comma).bind fun _ s₂ => takesFrom_pure rfl

theorem takesFrom_list (n : Nat) (close : Punct) (s : Progress) :
    TakesFrom s (list x n close) fun _ => 1 := by
  refine (takesFrom_loop (takesFrom_itemRound h close) n []).bind fun items s₁ => ?_
  exact (takesFrom_expect close).bind fun _ s₂ => takesFrom_pure rfl

theorem takesFrom_entryRound (entries : List (ObjectKey × Expr)) (s : Progress) :
    TakesFrom s (entryRound x entries) roundLeast := by
  refine takesFrom_ahead ?_
  split
  · exact takesFrom_pure rfl
  · split
    · exact takesFrom_throw
    · rename_i key hkey
      refine (takesFrom_step (ne_eof_of_objectKey? hkey)).bind fun _ s₁ =>
        (takesFrom_expect .colon).bind fun _ s₂ =>
        (h s₂).bind fun e s₃ => takesFrom_ahead ?_
      split
      · exact takesFrom_pure rfl
      · exact (takesFrom_expect .comma).bind fun _ s₄ => takesFrom_pure rfl

theorem takesFrom_entries (n : Nat) (s : Progress) : TakesFrom s (entries x n) fun _ => 1 := by
  refine (takesFrom_loop (takesFrom_entryRound h) n []).bind fun items s₁ => ?_
  exact (takesFrom_expect .closeBrace).bind fun _ s₂ => takesFrom_pure rfl

theorem takesFrom_accessRound (n : Nat) (e : Expr) (s : Progress) :
    TakesFrom s (accessRound x n e) roundLeast := by
  refine takesFrom_ahead ?_
  split
  · rename_i hdot
    refine (takesFrom_step (ne_eof_of_atPunct hdot)).bind fun _ s₁ => takesFrom_ahead ?_
    split
    · rename_i name hname
      have hk : s₁.ahead.head.kind ≠ .eof := by
        rw [hname]
        exact TokenKind.noConfusion
      exact (takesFrom_step hk).bind fun _ s₂ => takesFrom_pure rfl
    · exact takesFrom_throw
  split
  · rename_i hopen
    exact (takesFrom_step (ne_eof_of_atPunct hopen)).bind fun _ s₁ => (h s₁).bind fun key s₂ =>
      (takesFrom_expect .closeBracket).bind fun _ s₃ => takesFrom_pure rfl
  split
  · rename_i hopen
    exact (takesFrom_step (ne_eof_of_atPunct hopen)).bind fun _ s₁ =>
      (takesFrom_list h n .closeParen s₁).bind fun args s₂ => takesFrom_pure rfl
  · exact takesFrom_pure rfl

theorem takesFrom_stageRound (stages : List (Symbol × List Expr)) (s : Progress) :
    TakesFrom s (stageRound x stages) roundLeast := by
  refine takesFrom_ahead ?_
  split
  · rename_i hpipe
    refine (takesFrom_step (ne_eof_of_atOperator hpipe)).bind fun _ s₁ => takesFrom_ahead ?_
    refine (h s₁).bind fun e s₂ => ?_
    split
    · exact takesFrom_throw
    · exact takesFrom_pure rfl
  · exact takesFrom_pure rfl

/-- What follows an opening parenthesis takes a token. -/
theorem takesFrom_parenthesized (n position : Nat) (s : Progress) :
    TakesFrom s (parenthesized x n position) fun _ => 1 := by
  refine (takesFrom_list h n .closeParen s).bind fun items s₁ => takesFrom_ahead ?_
  split
  · rename_i harrow
    refine (takesFrom_step (ne_eof_of_atArrow harrow)).bind fun _ s₂ => ?_
    split
    · exact takesFrom_throw
    · exact (h s₂).bind fun body s₃ => takesFrom_pure rfl
  · split
    · exact takesFrom_throw
    · exact takesFrom_pure rfl
    · exact takesFrom_throw

end

/-- The levels of the grammar with this allowance. -/
structure Takes (n : Nat) : Prop where
  expression : ∀ s, TakesFrom s (expression n) fun _ => 1
  binary : ∀ least s, TakesFrom s (binary n least) fun _ => 1
  unary : ∀ s, TakesFrom s (unary n) fun _ => 1
  chain : ∀ s, TakesFrom s (chain n) fun _ => 1
  primary : ∀ s, TakesFrom s (primary n) fun _ => 1

section

variable (t : Takes n)
include t

theorem takesFrom_expression (s : Progress) : TakesFrom s (expression (n + 1)) fun _ => 1 := by
  rw [expression]
  refine (t.binary 0 s).bind fun condition s₁ => takesFrom_ahead ?_
  split
  · rename_i hquestion
    exact (takesFrom_step (ne_eof_of_atOperator hquestion)).bind fun _ s₂ =>
      (t.expression s₂).bind fun yes s₃ => (takesFrom_expect .colon).bind fun _ s₄ =>
      (t.expression s₄).bind fun alternative s₅ => takesFrom_pure rfl
  · exact takesFrom_pure rfl

theorem takesFrom_binary (least : Nat) (s : Progress) :
    TakesFrom s (binary (n + 1) least) fun _ => 1 := by
  rw [binary]
  exact (t.unary s).bind fun left s₁ =>
    takesFrom_loop (takesFrom_operatorRound t.binary least) n left

theorem takesFrom_unary (s : Progress) : TakesFrom s (unary (n + 1)) fun _ => 1 := by
  rw [unary]
  refine takesFrom_ahead ?_
  split
  · rename_i op hop
    exact (takesFrom_step (ne_eof_of_unary? hop)).bind fun _ s₁ =>
      (t.unary s₁).bind fun operand s₂ => takesFrom_pure rfl
  · exact t.chain s

theorem takesFrom_chain (s : Progress) : TakesFrom s (chain (n + 1)) fun _ => 1 := by
  rw [chain]
  refine (t.primary s).bind fun e s₁ => ?_
  split
  · exact takesFrom_pure rfl
  · exact takesFrom_loop (takesFrom_accessRound t.expression n) n e

theorem takesFrom_primary (s : Progress) : TakesFrom s (primary (n + 1)) fun _ => 1 := by
  rw [primary]
  refine takesFrom_ahead ?_
  split
  · rename_i hopen
    exact (takesFrom_step (ne_eof_of_punct hopen)).bind fun _ s₁ =>
      (takesFrom_parenthesized t.expression n _ s₁).mono fun _ => Nat.zero_le _
  · rename_i hopen
    exact (takesFrom_step (ne_eof_of_punct hopen)).bind fun _ s₁ =>
      (takesFrom_list t.expression n .closeBracket s₁).bind fun elements s₂ => takesFrom_pure rfl
  · rename_i hopen
    exact (takesFrom_step (ne_eof_of_punct hopen)).bind fun _ s₁ =>
      (takesFrom_entries t.expression n s₁).bind fun entries s₂ => takesFrom_pure rfl
  · split
    · rename_i name hname
      refine (takesFrom_step (ne_eof_of_symbol? hname)).bind fun _ s₁ => takesFrom_ahead ?_
      split
      · rename_i harrow
        exact (takesFrom_step (ne_eof_of_atArrow harrow)).bind fun _ s₂ =>
          (t.expression s₂).bind fun body s₃ => takesFrom_pure rfl
      · exact takesFrom_pure rfl
    · split
      · rename_i l hl
        exact (takesFrom_step (ne_eof_of_literal? hl)).bind fun _ s₁ => takesFrom_pure rfl
      · exact takesFrom_throw

end

/-- Every call of a level that succeeds takes a token. -/
theorem takes (n : Nat) : Takes n := by
  induction n with
  | zero =>
    exact ⟨fun s => by rw [expression]; exact takesFrom_exhausted,
      fun least s => by rw [binary]; exact takesFrom_exhausted,
      fun s => by rw [unary]; exact takesFrom_exhausted,
      fun s => by rw [chain]; exact takesFrom_exhausted,
      fun s => by rw [primary]; exact takesFrom_exhausted⟩
  | succ n t =>
    exact ⟨takesFrom_expression t, takesFrom_binary t, takesFrom_unary t, takesFrom_chain t,
      takesFrom_primary t⟩

/-- The rounds of the loops with this allowance. -/
structure RoundsTake (n : Nat) : Prop where
  operator : ∀ least left s, TakesFrom s (operatorRound (Descent.binary n) least left) roundLeast
  access : ∀ e s, TakesFrom s (accessRound (Descent.expression n) n e) roundLeast
  item : ∀ close items s, TakesFrom s (itemRound (Descent.expression n) close items) roundLeast
  entry : ∀ entries s, TakesFrom s (entryRound (Descent.expression n) entries) roundLeast
  stage : ∀ stages s, TakesFrom s (stageRound (Descent.chain n) stages) roundLeast

/-- Every round takes a token, is the last one or fails. -/
theorem roundsTake (n : Nat) : RoundsTake n :=
  ⟨takesFrom_operatorRound (takes n).binary, takesFrom_accessRound (takes n).expression n,
    takesFrom_itemRound (takes n).expression, takesFrom_entryRound (takes n).expression,
    takesFrom_stageRound (takes n).chain⟩

theorem takesFrom_pipeline (n : Nat) (s : Progress) : TakesFrom s (pipeline n) fun _ => 1 := by
  rw [pipeline]
  refine ((takes n).expression s).bind fun e s₁ => ?_
  exact (takesFrom_loop (takesFrom_stageRound (takes n).chain) n []).bind
    fun stages s₂ => takesFrom_pure rfl

/-- No run steps over the end of the input, whether it succeeds or fails. -/
theorem taken_whole {c : Tokens} (hc : c.Ended) {n : Nat} {r : Except ParseError Expr} {s' : Progress}
    (h : (whole n).run.run ⟨c, []⟩ = some (r, s')) :
    c.all = s'.taken ++ s'.ahead.all ∧ ∀ t ∈ s'.taken, t.kind ≠ .eof := by
  have htakes : TakesFrom ⟨c, []⟩ (whole n) fun _ => 0 := by
    rw [whole]
    refine (takesFrom_pipeline n _).bind fun e s₁ => takesFrom_ahead ?_
    split
    · exact takesFrom_pure rfl
    · exact takesFrom_throw
  obtain ⟨ts, hm, -⟩ := htakes hc r s' h
  have htaken : s'.taken = ts := hm.taken
  rw [htaken]
  exact ⟨hm.leads.1, hm.inside⟩

end

end Descent

end DataBinding
