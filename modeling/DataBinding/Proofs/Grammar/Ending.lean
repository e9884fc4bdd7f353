import DataBinding.Proofs.Grammar.Taking
import DataBinding.Proofs.Grammar.Whole

/-!
# The descent ends

A run of the descent gives what the parser gives, if its allowance is large enough for the tokens ahead.
Each level of the grammar calls the next one at the same place, and comes back to the first level only
behind a token, so that five calls for every token ahead are enough. The rounds of a loop are bounded by
the tokens ahead alone. Both bounds need that what succeeds takes a token; without that, the induction on
the allowance would not go through.

Results:

* `Descent.gives`: a call of a level ends, with what the function of the parser gives.
* `Descent.parse_eq`: so does the descent through a text, for an allowance that its length bounds.
* `Descent.callsTake`: the functions of the parser take what the descent takes.
* `Descent.parse_ends`: the parser ends for every text.
-/

namespace DataBinding

/-! ## The tokens of a text -/

/-- There are no more tokens ahead than characters, one more at most. -/
theorem Cursor.length_scan_le (c : Cursor) : c.scan.1.length ≤ c.rest.length + 1 := by
  rw [scan_eq]
  cases hn : c.next with
  | error e => exact Nat.zero_le _
  | ok r =>
    obtain ⟨t, c'⟩ := r
    dsimp only
    by_cases ht : t.kind.isEof = true
    · rw [if_pos ht]
      exact Nat.le_add_left 1 _
    · rw [if_neg ht]
      have hlt := next_length_lt hn (Bool.eq_false_iff.2 ht)
      have ih := length_scan_le c'
      show c'.scan.1.length + 1 ≤ c.rest.length + 1
      omega
termination_by c.rest.length

namespace Tokens

/-- The place `c'` lies behind `c`, with tokens between them that are not the end of the input. -/
def Takes (c c' : Tokens) : Prop := ∃ ts, ts ≠ [] ∧ c.Leads ts c' ∧ ∀ t ∈ ts, t.kind ≠ .eof

variable {source : String} {c : Tokens}

theorem size_le_of_ofSource (h : ofSource source = .ok c) : c.size ≤ source.length := by
  have hlength := (Cursor.start source).length_scan_le
  rw [ofSource_eq_ok_iff.1 h] at hlength
  have hrest : (Cursor.start source).rest.length = source.length := String.length_toList
  simp only [all, List.length_cons] at hlength
  unfold size
  omega

/-- The tokens of a text end with the end of the input or in front of a fault. -/
theorem ended_of_ofSource (h : ofSource source = .ok c) : c.Ended := by
  intro hf
  have hscan := ofSource_eq_ok_iff.1 h
  obtain ⟨ts, last, hall, hlast, -⟩ := Cursor.scan_of_none (Cursor.start source) (by rw [hscan, hf])
  rw [hscan] at hall
  exact ⟨ts, last, hall, hlast⟩

end Tokens

namespace Descent

open DataBinding.Expr

variable {α β : Type}

/-! ## Runs that give what the parser gives -/

/-- The run from `s` ends, with the result or the fault `y`. -/
def GivesFrom (s : Progress) (x : Descent α) (y : Except ParseError (α × Tokens)) : Prop :=
  (x.run.run s).map (fun (r, s') => r.map fun a => (a, s'.ahead)) = some y

section

variable {s : Progress} {x : Descent α} {f : α → Descent β} {y : Except ParseError (α × Tokens)}

theorem givesFrom_ahead {f : Tokens → Descent β} {y : Except ParseError (β × Tokens)}
    (h : GivesFrom s (f s.ahead) y) : GivesFrom s (ahead >>= f) y := h

theorem givesFrom_pure (a : α) : GivesFrom s (pure a) (.ok (a, s.ahead)) := rfl

theorem givesFrom_throw (e : ParseError) : GivesFrom s (throw e : Descent α) (.error e) := rfl

/-- The outcome of a run, without the place where it ends. -/
theorem GivesFrom.outcome (h : GivesFrom s x y) :
    (x.run.run s).map Prod.fst = some (y.map Prod.fst) := by
  obtain ⟨⟨r, s'⟩, hrun, rfl⟩ := Option.map_eq_some_iff.1 h
  rw [hrun]
  cases r <;> rfl

theorem GivesFrom.bind {p : α → Nat} (h : GivesFrom s x y) (hs : s.ahead.Ended) (ht : TakesFrom s x p)
    {g : α × Tokens → Except ParseError (β × Tokens)}
    (hf : ∀ a s', s'.ahead.Ended → s'.ahead.size + p a ≤ s.ahead.size →
      GivesFrom s' (f a) (g (a, s'.ahead))) :
    GivesFrom s (x >>= f) (y >>= g) := by
  obtain ⟨⟨r, s'⟩, hrun, hy⟩ := Option.map_eq_some_iff.1 h
  rw [GivesFrom, run_bind, hrun, ← hy]
  cases r with
  | error e => rfl
  | ok a =>
    obtain ⟨ts, hm, hp⟩ := ht hs _ _ hrun
    have hsize := hm.size_eq
    have hpa := hp a rfl
    exact hf a s' (hm.leads.ended hs) (by omega)

theorem givesFrom_step {f : Unit → Descent β} {g : Tokens → Except ParseError (β × Tokens)}
    (hs : s.ahead.Ended) (hk : s.ahead.head.kind ≠ .eof)
    (hf : ∀ s', s'.ahead.Ended → s'.ahead.size + 1 ≤ s.ahead.size →
      GivesFrom s' (f ()) (g s'.ahead)) :
    GivesFrom s (step >>= f) (s.ahead.skip >>= g) := by
  have h : GivesFrom s step (s.ahead.skip.map fun c => ((), c)) := by
    obtain ⟨⟨head, rest, fault⟩, taken⟩ := s
    cases rest with
    | cons t rest => rfl
    | nil =>
      cases fault with
      | some e => rfl
      | none => exact absurd rfl (hs.rest_ne_nil rfl hk)
  have := h.bind (f := f) hs (takesFrom_step hk) (g := fun r => g r.2) fun _ => hf
  cases hc : s.ahead.skip with
  | error e => rwa [hc] at this
  | ok c => rwa [hc] at this

theorem givesFrom_expect {p : Punct} {f : Unit → Descent β}
    {g : Tokens → Except ParseError (β × Tokens)} (hs : s.ahead.Ended)
    (hf : ∀ s', s'.ahead.Ended → s'.ahead.size + 1 ≤ s.ahead.size →
      GivesFrom s' (f ()) (g s'.ahead)) :
    GivesFrom s (expect p >>= f) (s.ahead.skipPunct p >>= g) := by
  rw [Tokens.skipPunct_eq, expect, bind_assoc]
  refine givesFrom_ahead ?_
  split
  · rename_i h
    exact givesFrom_step hs (ne_eof_of_atPunct h) hf
  · rfl

end

/-! ## Loops -/

section

variable {n N : Nat}

theorem givesFrom_operators
    (h : ∀ m s, s.ahead.Ended → s.ahead.size ≤ N → GivesFrom s (binary n m) (binaryAt m s.ahead))
    (least : Nat) {k : Nat} {s : Progress} (hs : s.ahead.Ended) (hN : s.ahead.size ≤ N)
    (hk : s.ahead.size < k) (left : Expr) :
    GivesFrom s (loop (operatorRound (binary n) least) k left) (operatorsAt least left s.ahead) := by
  induction k generalizing s left with
  | zero => exact absurd hk (Nat.not_lt_zero _)
  | succ k ih =>
    rw [operatorsAt_eq, loop, operatorRound, bind_assoc]
    refine givesFrom_ahead ?_
    cases hop : s.ahead.binary? with
    | none => exact givesFrom_pure left
    | some op =>
      dsimp only
      split
      · exact givesFrom_pure left
      · simp only [bind_assoc, pure_bind]
        refine givesFrom_step hs (ne_eof_of_binary? hop) fun s₁ hs₁ h₁ => ?_
        refine (h _ s₁ hs₁ (by omega)).bind hs₁ ((takes n).binary _ s₁) fun right s₂ hs₂ h₂ => ?_
        exact ih hs₂ (by omega) (by omega) _

section

variable (h : ∀ s, s.ahead.Ended → s.ahead.size ≤ N →
  GivesFrom s (expression n) (expressionAt s.ahead))
include h

theorem givesFrom_items (close : Punct) {k : Nat} {s : Progress} (hs : s.ahead.Ended)
    (hN : s.ahead.size ≤ N) (hk : s.ahead.size < k) (items : List Expr) :
    GivesFrom s (do
      let items ← loop (itemRound (expression n) close) k items
      expect close
      return items) (do
      let (es, c) ← listAt close s.ahead
      return (items ++ es, c)) := by
  induction k generalizing s items with
  | zero => exact absurd hk (Nat.not_lt_zero _)
  | succ k ih =>
    rw [listAt_eq, loop, itemRound]
    simp only [bind_assoc]
    refine givesFrom_ahead ?_
    by_cases hclose : s.ahead.atPunct close = true
    · have hskip : s.ahead.skip = s.ahead.skipPunct close := by rw [Tokens.skipPunct_eq, if_pos hclose]
      rw [if_pos hclose, if_pos hclose, hskip]
      simp only [bind_assoc, pure_bind, List.append_nil]
      exact givesFrom_expect hs fun s₁ _ _ => givesFrom_pure items
    · rw [if_neg hclose, if_neg hclose]
      simp only [bind_assoc]
      refine (h s hs hN).bind hs ((takes n).expression s) fun e s₁ hs₁ h₁ => givesFrom_ahead ?_
      by_cases hend : s₁.ahead.atPunct close = true
      · have hnext := ih hs₁ (by omega) (by omega) (items ++ [e])
        rw [listAt_eq, if_pos hend] at hnext
        rw [if_pos hend, if_pos hend]
        simpa using hnext
      · rw [if_neg hend, if_neg hend]
        simp only [bind_assoc, pure_bind]
        refine givesFrom_expect hs₁ fun s₂ hs₂ h₂ => ?_
        have hnext := ih hs₂ (by omega) (by omega) (items ++ [e])
        simpa using hnext

theorem givesFrom_list (close : Punct) {k : Nat} {s : Progress} (hs : s.ahead.Ended)
    (hN : s.ahead.size ≤ N) (hk : s.ahead.size < k) :
    GivesFrom s (list (expression n) k close) (listAt close s.ahead) := by
  have hitems := givesFrom_items h close hs hN hk []
  rw [list]
  simpa using hitems

theorem givesFrom_entryItems {k : Nat} {s : Progress} (hs : s.ahead.Ended) (hN : s.ahead.size ≤ N)
    (hk : s.ahead.size < k) (entries : List (ObjectKey × Expr)) :
    GivesFrom s (do
      let entries ← loop (entryRound (expression n)) k entries
      expect .closeBrace
      return entries) (do
      let (es, c) ← entriesAt s.ahead
      return (entries ++ es, c)) := by
  induction k generalizing s entries with
  | zero => exact absurd hk (Nat.not_lt_zero _)
  | succ k ih =>
    rw [entriesAt_eq, loop, entryRound]
    simp only [bind_assoc]
    refine givesFrom_ahead ?_
    by_cases hclose : s.ahead.atPunct .closeBrace = true
    · have hskip : s.ahead.skip = s.ahead.skipPunct .closeBrace := by
        rw [Tokens.skipPunct_eq, if_pos hclose]
      rw [if_pos hclose, if_pos hclose, hskip]
      simp only [bind_assoc, pure_bind, List.append_nil]
      exact givesFrom_expect hs fun s₁ _ _ => givesFrom_pure entries
    · rw [if_neg hclose, if_neg hclose]
      cases hkey : s.ahead.head.objectKey? with
      | none => rfl
      | some key =>
        simp only [bind_assoc]
        refine givesFrom_step hs (ne_eof_of_objectKey? hkey) fun s₁ hs₁ h₁ =>
          givesFrom_expect hs₁ fun s₂ hs₂ h₂ => ?_
        refine (h s₂ hs₂ (by omega)).bind hs₂ ((takes n).expression s₂) fun e s₃ hs₃ h₃ =>
          givesFrom_ahead ?_
        by_cases hend : s₃.ahead.atPunct .closeBrace = true
        · have hnext := ih hs₃ (by omega) (by omega) (entries ++ [(key, e)])
          rw [entriesAt_eq, if_pos hend] at hnext
          rw [if_pos hend, if_pos hend]
          simpa using hnext
        · rw [if_neg hend, if_neg hend]
          simp only [bind_assoc, pure_bind]
          refine givesFrom_expect hs₃ fun s₄ hs₄ h₄ => ?_
          have hnext := ih hs₄ (by omega) (by omega) (entries ++ [(key, e)])
          simpa using hnext

theorem givesFrom_entries {k : Nat} {s : Progress} (hs : s.ahead.Ended) (hN : s.ahead.size ≤ N)
    (hk : s.ahead.size < k) : GivesFrom s (entries (expression n) k) (entriesAt s.ahead) := by
  have hitems := givesFrom_entryItems h hs hN hk []
  rw [entries]
  simpa using hitems

theorem givesFrom_accesses {m k : Nat} {s : Progress} (hs : s.ahead.Ended) (hN : s.ahead.size ≤ N)
    (hm : s.ahead.size ≤ m) (hk : s.ahead.size < k) (e : Expr) :
    GivesFrom s (loop (accessRound (expression n) m) k e) (accessesAt e s.ahead) := by
  induction k generalizing s e with
  | zero => exact absurd hk (Nat.not_lt_zero _)
  | succ k ih =>
    rw [accessesAt_eq, loop, accessRound, bind_assoc]
    refine givesFrom_ahead ?_
    by_cases hdot : s.ahead.atPunct .dot = true
    · rw [if_pos hdot, if_pos hdot]
      simp only [bind_assoc]
      refine givesFrom_step hs (ne_eof_of_atPunct hdot) fun s₁ hs₁ h₁ => givesFrom_ahead ?_
      cases hname : s₁.ahead.head.kind with
      | name name =>
        have hkind : s₁.ahead.head.kind ≠ .eof := by
          rw [hname]
          exact TokenKind.noConfusion
        simp only [bind_assoc, pure_bind]
        exact givesFrom_step hs₁ hkind fun s₂ hs₂ h₂ => ih hs₂ (by omega) (by omega) (by omega) _
      | _ => rfl
    rw [if_neg hdot, if_neg hdot]
    by_cases hbracket : s.ahead.atPunct .openBracket = true
    · rw [if_pos hbracket, if_pos hbracket]
      simp only [bind_assoc, pure_bind]
      refine givesFrom_step hs (ne_eof_of_atPunct hbracket) fun s₁ hs₁ h₁ => ?_
      refine (h s₁ hs₁ (by omega)).bind hs₁ ((takes n).expression s₁) fun key s₂ hs₂ h₂ => ?_
      exact givesFrom_expect hs₂ fun s₃ hs₃ h₃ => ih hs₃ (by omega) (by omega) (by omega) _
    rw [if_neg hbracket, if_neg hbracket]
    by_cases hparen : s.ahead.atPunct .openParen = true
    · rw [if_pos hparen, if_pos hparen]
      simp only [bind_assoc, pure_bind]
      refine givesFrom_step hs (ne_eof_of_atPunct hparen) fun s₁ hs₁ h₁ => ?_
      have hargs := givesFrom_list h .closeParen hs₁ (by omega) (k := m) (by omega)
      refine hargs.bind hs₁ (takesFrom_list (takes n).expression m .closeParen s₁)
        fun args s₂ hs₂ h₂ => ?_
      exact ih hs₂ (by omega) (by omega) (by omega) _
    · rw [if_neg hparen, if_neg hparen]
      exact givesFrom_pure e

end

theorem givesFrom_stages
    (h : ∀ s, s.ahead.Ended → s.ahead.size ≤ N → GivesFrom s (chain n) (postfixAt s.ahead))
    {k : Nat} {s : Progress} (hs : s.ahead.Ended) (hN : s.ahead.size ≤ N) (hk : s.ahead.size < k)
    (stages : List (Symbol × List Expr)) :
    GivesFrom s (loop (stageRound (chain n)) k stages) (do
      let (more, c) ← stagesAt s.ahead
      return (stages ++ more, c)) := by
  induction k generalizing s stages with
  | zero => exact absurd hk (Nat.not_lt_zero _)
  | succ k ih =>
    rw [stagesAt_eq, loop, stageRound, bind_assoc]
    refine givesFrom_ahead ?_
    by_cases hpipe : s.ahead.atOperator .pipe = true
    · rw [if_pos hpipe, if_pos hpipe]
      simp only [bind_assoc]
      refine givesFrom_step hs (ne_eof_of_atOperator hpipe) fun s₁ hs₁ h₁ => givesFrom_ahead ?_
      refine (h s₁ hs₁ (by omega)).bind hs₁ ((takes n).chain s₁) fun e s₂ hs₂ h₂ => ?_
      cases hstage : e.stage? with
      | none => rfl
      | some stage =>
        have hnext := ih hs₂ (by omega) (by omega) (stages ++ [stage])
        simpa using hnext
    · rw [if_neg hpipe, if_neg hpipe]
      simp only [pure_bind, List.append_nil]
      exact givesFrom_pure stages

end

/-! ## Levels -/

/-- With this allowance the levels of the grammar give what the parser gives, from places with so few
    tokens ahead that a level that calls another one at the same place comes before it, and all come
    before those that are called behind a token. -/
structure Gives (n : Nat) : Prop where
  expression : ∀ s, s.ahead.Ended → 5 * s.ahead.size + 4 < n →
    GivesFrom s (expression n) (expressionAt s.ahead)
  binary : ∀ least s, s.ahead.Ended → 5 * s.ahead.size + 3 < n →
    GivesFrom s (binary n least) (binaryAt least s.ahead)
  unary : ∀ s, s.ahead.Ended → 5 * s.ahead.size + 2 < n → GivesFrom s (unary n) (unaryAt s.ahead)
  chain : ∀ s, s.ahead.Ended → 5 * s.ahead.size + 1 < n → GivesFrom s (chain n) (postfixAt s.ahead)
  primary : ∀ s, s.ahead.Ended → 5 * s.ahead.size < n → GivesFrom s (primary n) (primaryAt s.ahead)

section

variable {n : Nat} {s : Progress} (g : Gives n) (hs : s.ahead.Ended)
include g hs

theorem givesFrom_expression (hn : 5 * s.ahead.size + 4 < n + 1) :
    GivesFrom s (expression (n + 1)) (expressionAt s.ahead) := by
  rw [expression, expressionAt_eq]
  refine (g.binary 0 s hs (by omega)).bind hs ((takes n).binary 0 s) fun condition s₁ hs₁ h₁ =>
    givesFrom_ahead ?_
  dsimp only
  by_cases hquestion : s₁.ahead.atOperator .question = true
  · rw [if_pos hquestion, if_pos hquestion]
    refine givesFrom_step hs₁ (ne_eof_of_atOperator hquestion) fun s₂ hs₂ h₂ => ?_
    refine (g.expression s₂ hs₂ (by omega)).bind hs₂ ((takes n).expression s₂) fun yes s₃ hs₃ h₃ => ?_
    refine givesFrom_expect hs₃ fun s₄ hs₄ h₄ => ?_
    refine (g.expression s₄ hs₄ (by omega)).bind hs₄ ((takes n).expression s₄)
      fun alternative s₅ hs₅ h₅ => ?_
    exact givesFrom_pure _
  · rw [if_neg hquestion, if_neg hquestion]
    exact givesFrom_pure condition

theorem givesFrom_binary (least : Nat) (hn : 5 * s.ahead.size + 3 < n + 1) :
    GivesFrom s (binary (n + 1) least) (binaryAt least s.ahead) := by
  rw [binary, binaryAt_eq]
  refine (g.unary s hs (by omega)).bind hs ((takes n).unary s) fun left s₁ hs₁ h₁ => ?_
  refine givesFrom_operators (N := s₁.ahead.size) (fun m s' hs' h' => ?_) least hs₁ (Nat.le_refl _)
    (by omega) left
  exact g.binary m s' hs' (by omega)

theorem givesFrom_unary (hn : 5 * s.ahead.size + 2 < n + 1) :
    GivesFrom s (unary (n + 1)) (unaryAt s.ahead) := by
  rw [unary, unaryAt_eq]
  refine givesFrom_ahead ?_
  cases hop : s.ahead.unary? with
  | none => exact g.chain s hs (by omega)
  | some op =>
    refine givesFrom_step hs (ne_eof_of_unary? hop) fun s₁ hs₁ h₁ => ?_
    refine (g.unary s₁ hs₁ (by omega)).bind hs₁ ((takes n).unary s₁) fun operand s₂ hs₂ h₂ => ?_
    exact givesFrom_pure _

theorem givesFrom_chain (hn : 5 * s.ahead.size + 1 < n + 1) :
    GivesFrom s (chain (n + 1)) (postfixAt s.ahead) := by
  rw [chain, postfixAt_eq]
  refine (g.primary s hs (by omega)).bind hs ((takes n).primary s) fun e s₁ hs₁ h₁ => ?_
  have haccesses : GivesFrom s₁ (loop (accessRound (Descent.expression n) n) n e)
      (accessesAt e s₁.ahead) :=
    givesFrom_accesses (fun s' hs' h' => g.expression s' hs' (by omega)) hs₁ (Nat.le_refl _)
      (by omega) (by omega) e
  cases e with
  | arrow params body => exact givesFrom_pure _
  | _ => exact haccesses

theorem givesFrom_parenthesized (position : Nat) (hn : 5 * s.ahead.size + 4 < n) :
    GivesFrom s (parenthesized (Descent.expression n) n position) (do
      let (items, c₂) ← listAt .closeParen s.ahead
      if c₂.atArrow then
        let c₃ ← c₂.skip
        match paramsOf? items with
        | none => throw (.invalidArrowParams position)
        | some params =>
          let (body, c₄) ← expressionAt c₃
          return (.arrow params body, c₄)
      else
        match items with
        | [] => throw (c₂.unexpected .arrowAfterParens)
        | [e] => return (.parens e, c₂)
        | _ => throw (.commaExpression position)) := by
  have hlist : GivesFrom s (list (Descent.expression n) n .closeParen) (listAt .closeParen s.ahead) :=
    givesFrom_list (fun s' hs' h' => g.expression s' hs' (by omega)) .closeParen hs (Nat.le_refl _)
      (by omega)
  refine hlist.bind hs (takesFrom_list (takes n).expression n .closeParen s) fun items s₁ hs₁ h₁ =>
    givesFrom_ahead ?_
  dsimp only
  by_cases harrow : s₁.ahead.atArrow = true
  · rw [if_pos harrow, if_pos harrow]
    refine givesFrom_step hs₁ (ne_eof_of_atArrow harrow) fun s₂ hs₂ h₂ => ?_
    cases paramsOf? items with
    | none => rfl
    | some params =>
      refine (g.expression s₂ hs₂ (by omega)).bind hs₂ ((takes n).expression s₂) fun body s₃ hs₃ h₃ => ?_
      exact givesFrom_pure _
  · rw [if_neg harrow, if_neg harrow]
    rcases items with _ | ⟨e, _ | ⟨e', rest⟩⟩ <;> rfl

theorem givesFrom_primary (hn : 5 * s.ahead.size < n + 1) :
    GivesFrom s (primary (n + 1)) (primaryAt s.ahead) := by
  have hexpression : ∀ s', s'.ahead.Ended → s'.ahead.size + 1 ≤ s.ahead.size →
      GivesFrom s' (Descent.expression n) (expressionAt s'.ahead) :=
    fun s' hs' h' => g.expression s' hs' (by omega)
  rw [primary, primaryAt_eq]
  refine givesFrom_ahead ?_
  by_cases hparen : s.ahead.head.kind = .punct .openParen
  · simp only [hparen]
    exact givesFrom_step hs (ne_eof_of_punct hparen) fun s₁ hs₁ h₁ =>
      givesFrom_parenthesized g hs₁ _ (by omega)
  by_cases hbracket : s.ahead.head.kind = .punct .openBracket
  · simp only [hbracket]
    refine givesFrom_step hs (ne_eof_of_punct hbracket) fun s₁ hs₁ h₁ => ?_
    have hlist : GivesFrom s₁ (list (Descent.expression n) n .closeBracket)
        (listAt .closeBracket s₁.ahead) :=
      givesFrom_list (fun s' hs' h' => hexpression s' hs' (by omega)) .closeBracket hs₁ (Nat.le_refl _)
        (by omega)
    exact hlist.bind hs₁ (takesFrom_list (takes n).expression n .closeBracket s₁)
      fun elements s₂ hs₂ h₂ => givesFrom_pure _
  by_cases hbrace : s.ahead.head.kind = .punct .openBrace
  · simp only [hbrace]
    refine givesFrom_step hs (ne_eof_of_punct hbrace) fun s₁ hs₁ h₁ => ?_
    have hentries : GivesFrom s₁ (entries (Descent.expression n) n) (entriesAt s₁.ahead) :=
      givesFrom_entries (fun s' hs' h' => hexpression s' hs' (by omega)) hs₁ (Nat.le_refl _)
        (by omega)
    exact hentries.bind hs₁ (takesFrom_entries (takes n).expression n s₁)
      fun entries s₂ hs₂ h₂ => givesFrom_pure _
  simp only
  cases hsymbol : s.ahead.head.symbol? with
  | some symbol =>
    refine givesFrom_step hs (ne_eof_of_symbol? hsymbol) fun s₁ hs₁ h₁ => ?_
    refine givesFrom_ahead ?_
    by_cases harrow : s₁.ahead.atArrow = true
    · rw [if_pos harrow, if_pos harrow]
      refine givesFrom_step hs₁ (ne_eof_of_atArrow harrow) fun s₂ hs₂ h₂ => ?_
      exact (hexpression s₂ hs₂ (by omega)).bind hs₂ ((takes n).expression s₂)
        fun body s₃ hs₃ h₃ => givesFrom_pure _
    · rw [if_neg harrow, if_neg harrow]
      exact givesFrom_pure _
  | none =>
    cases hl : s.ahead.head.literal? with
    | none => rfl
    | some l =>
      refine givesFrom_step hs (ne_eof_of_literal? hl) fun s₁ _ _ => ?_
      exact givesFrom_pure _

end

/-- The levels of the grammar give what the parser gives, if the allowance is large enough. -/
theorem gives (n : Nat) : Gives n := by
  induction n with
  | zero => constructor <;> intros <;> omega
  | succ n g =>
    exact ⟨fun s => givesFrom_expression g, fun least s hs => givesFrom_binary g hs least,
      fun s => givesFrom_unary g, fun s => givesFrom_chain g, fun s => givesFrom_primary g⟩

theorem givesFrom_pipeline {n : Nat} {s : Progress} (hs : s.ahead.Ended)
    (hn : 5 * s.ahead.size + 4 < n) : GivesFrom s (pipeline n) (pipelineAt s.ahead) := by
  rw [pipeline, pipelineAt_eq]
  refine ((gives n).expression s hs hn).bind hs ((takes n).expression s) fun e s₁ hs₁ h₁ => ?_
  have hchain : ∀ s', s'.ahead.Ended → s'.ahead.size ≤ s₁.ahead.size →
      GivesFrom s' (chain n) (postfixAt s'.ahead) :=
    fun s' hs' h' => (gives n).chain s' hs' (by omega)
  have hstages := givesFrom_stages hchain hs₁ (Nat.le_refl _) (k := n) (by omega) []
  have htakes := takesFrom_loop (takesFrom_stageRound (takes n).chain) n [] (s := s₁)
  have hend := hstages.bind hs₁ htakes (g := fun (stages, c) =>
    pure (if stages.isEmpty then e else .pipeline e stages, c)) fun stages s₂ _ _ => givesFrom_pure _
  simpa using hend

theorem givesFrom_whole {n : Nat} {s : Progress} (hs : s.ahead.Ended)
    (hn : 5 * s.ahead.size + 4 < n) : GivesFrom s (whole n) (do
      let (e, c) ← pipelineAt s.ahead
      if c.head.kind.isEof then return (e, c) else throw (c.unexpected .endOfInput)) := by
  rw [whole]
  refine (givesFrom_pipeline hs hn).bind hs (takesFrom_pipeline n s) fun e s₁ _ _ => givesFrom_ahead ?_
  dsimp only
  split
  · exact givesFrom_pure e
  · exact givesFrom_throw _

/-! ## Whole texts -/

theorem parse_eq {n : Nat} {source : String} (hn : 5 * source.length + 5 ≤ n) :
    Descent.parse n source = some (Expr.parse source) := by
  rw [Descent.parse, Expr.parse_eq]
  cases hc : Tokens.ofSource source with
  | error e => rfl
  | ok c =>
    have hsize := Tokens.size_le_of_ofSource hc
    have hn : 5 * c.size + 4 < n := by omega
    have hgives := givesFrom_whole (s := ⟨c, []⟩) (Tokens.ended_of_ofSource hc) hn
    show ((whole n).run.run ⟨c, []⟩).map Prod.fst = some (pipelineAt c >>= fun (e, c₁) =>
      if c₁.head.kind.isEof then return e else throw (c₁.unexpected .endOfInput))
    rw [hgives.outcome]
    cases pipelineAt c with
    | error e => rfl
    | ok r =>
      obtain ⟨e, c₁⟩ := r
      dsimp only [bind, Except.bind]
      split <;> rfl

/-! ## The functions of the parser -/

/-- What a run takes that gives what a function of the parser gives. -/
theorem GivesFrom.takes {c c' : Tokens} {x : Descent α} {a : α} (hc : c.Ended)
    (h : GivesFrom ⟨c, []⟩ x (.ok (a, c'))) (ht : TakesFrom ⟨c, []⟩ x fun _ => 1) : c.Takes c' := by
  obtain ⟨⟨r, s'⟩, hrun, hr⟩ := Option.map_eq_some_iff.1 h
  cases r with
  | error e => cases hr
  | ok b =>
    cases hr
    obtain ⟨ts, hm, hlength⟩ := ht hc _ _ hrun
    exact ⟨ts, List.ne_nil_of_length_pos (hlength _ rfl), hm.leads, hm.inside⟩

/-- What the functions of the parser take that succeed at a place. -/
structure CallsTake (c : Tokens) : Prop where
  expression : ∀ {e c'}, expressionAt c = .ok (e, c') → c.Takes c'
  binary : ∀ {least e c'}, binaryAt least c = .ok (e, c') → c.Takes c'
  unary : ∀ {e c'}, unaryAt c = .ok (e, c') → c.Takes c'
  chain : ∀ {e c'}, postfixAt c = .ok (e, c') → c.Takes c'
  primary : ∀ {e c'}, primaryAt c = .ok (e, c') → c.Takes c'

/-- The functions of the parser take what the descent takes. -/
theorem callsTake {c : Tokens} (hc : c.Ended) : CallsTake c := by
  have g := gives (5 * c.size + 5)
  have t := Descent.takes (5 * c.size + 5)
  have hn : ∀ k ≤ 4, 5 * c.size + k < 5 * c.size + 5 := fun k hk => by omega
  exact ⟨fun h => (h ▸ g.expression ⟨c, []⟩ hc (hn 4 (by decide))).takes hc (t.expression _),
    fun {least} _ _ h => (h ▸ g.binary least ⟨c, []⟩ hc (hn 3 (by decide))).takes hc (t.binary least _),
    fun h => (h ▸ g.unary ⟨c, []⟩ hc (hn 2 (by decide))).takes hc (t.unary _),
    fun h => (h ▸ g.chain ⟨c, []⟩ hc (hn 1 (by decide))).takes hc (t.chain _),
    fun h => (h ▸ g.primary ⟨c, []⟩ hc (hn 0 (by decide))).takes hc (t.primary _)⟩

/-- How the descent through the tokens of a text goes. -/
structure Descends (source : String) : Prop where
  /-- The tokens end with the end of the input or in front of a fault, and there are no more of them than
      characters, the first one apart. -/
  tokens : ∀ c, Tokens.ofSource source = .ok c → c.Ended ∧ c.size ≤ source.length
  /-- With an allowance that the length of the text bounds a run ends, with the tree or the fault that
      `parse` gives. -/
  ends : ∀ n, 5 * source.length + 5 ≤ n → Descent.parse n source = some (Expr.parse source)
  /-- So does a call of a level from any place, with an allowance that the tokens ahead bound. -/
  bounded : ∀ n, Gives n
  /-- Every call of a level that succeeds takes a token. -/
  levels : ∀ n, Takes n
  /-- So does every call of a function of the parser. -/
  calls : ∀ c, c.Ended → CallsTake c
  /-- Every round of a loop takes a token, is the last one or fails. -/
  rounds : ∀ n, RoundsTake n
  /-- No run steps over the end of the input, whether it succeeds or fails. -/
  inside : ∀ c n r s', Tokens.ofSource source = .ok c → (whole n).run.run ⟨c, []⟩ = some (r, s') →
    c.all = s'.taken ++ s'.ahead.all ∧ ∀ t ∈ s'.taken, t.kind ≠ .eof

/-- The parser ends for every text, with a tree or a fault: each call that succeeds and each round of a
    loop takes tokens in front of the end of the input, so that calls are not nested deeper, and loops do
    not go on longer, than the tokens ahead allow. -/
theorem parse_ends (source : String) : Descends source where
  tokens _ hc := ⟨Tokens.ended_of_ofSource hc, Tokens.size_le_of_ofSource hc⟩
  ends _ hn := parse_eq hn
  bounded := gives
  levels := Descent.takes
  calls _ := callsTake
  rounds := roundsTake
  inside _ _ _ _ hc := taken_whole (Tokens.ended_of_ofSource hc)

end Descent

end DataBinding
