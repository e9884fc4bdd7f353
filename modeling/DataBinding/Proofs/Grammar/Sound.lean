import DataBinding.Proofs.Grammar.Spelling
import DataBinding.Proofs.Grammar.Steps

/-!
# What the parser takes

Every function of the parser takes tokens that spell what it gives, and what it gives is well
stratified. The tokens it leaves say why: a function that takes operators leaves none that it could
have taken, and behind the body of an arrow function no operator is left at all.

Results:

* `Tokens.Leads`: from one place in the tokens to a later one.
* `Expr.sound`: what every level of the parser gives, by induction on the number of tokens ahead.
-/

namespace DataBinding

namespace Tokens

/-! ## Places in the tokens -/

/-- The tokens ahead. -/
def all (c : Tokens) : List Token := c.head :: c.rest

/-- The tokens `ts` lie between two places. -/
def Leads (c : Tokens) (ts : List Token) (c' : Tokens) : Prop :=
  c.all = ts ++ c'.all ∧ c.fault = c'.fault

theorem Leads.refl (c : Tokens) : c.Leads [] c := ⟨rfl, rfl⟩

theorem Leads.trans {c c₁ c₂ : Tokens} {ts us : List Token} (h : c.Leads ts c₁)
    (h' : c₁.Leads us c₂) : c.Leads (ts ++ us) c₂ :=
  ⟨by rw [h.1, h'.1, List.append_assoc], h.2.trans h'.2⟩

theorem Leads.cons {c c₁ c₂ : Tokens} {t : Token} {ts : List Token} (h : c.Leads [t] c₁)
    (h' : c₁.Leads ts c₂) : c.Leads (t :: ts) c₂ := h.trans h'

theorem Leads.size_lt {c c' : Tokens} {t : Token} {ts : List Token} (h : c.Leads (t :: ts) c') :
    c'.size < c.size := by
  have := congrArg List.length h.1
  simp only [all, List.length_append, List.length_cons] at this
  unfold size
  omega

theorem Leads.head_eq {c c' : Tokens} {t : Token} {ts : List Token} (h : c.Leads (t :: ts) c') :
    c.head = t := (List.cons.inj h.1).1

theorem leads_of_skip {c c' : Tokens} (h : c.skip = .ok c') : c.Leads [c.head] c' := by
  unfold skip advance at h
  obtain ⟨head, rest, fault⟩ := c
  cases rest with
  | nil => cases fault <;> cases h
  | cons t ts =>
    cases h
    exact ⟨rfl, rfl⟩

/-- A token that another one follows can be stepped over. -/
theorem Leads.skip {c c' : Tokens} {t : Token} {ts : List Token} (h : c.Leads (t :: ts) c') :
    ∃ c₁, c.skip = .ok c₁ ∧ c₁.Leads ts c' := by
  obtain ⟨head, rest, fault⟩ := c
  obtain ⟨h, hf⟩ := h
  have hr : rest = ts ++ c'.all := (List.cons.inj h).2
  cases rest with
  | nil => simp [all] at hr
  | cons u us => exact ⟨⟨u, us, fault⟩, rfl, hr, hf⟩

@[simp] theorem atPunct_iff {c : Tokens} {p : Punct} :
    c.atPunct p = true ↔ c.head.kind = .punct p := by
  unfold atPunct TokenKind.isPunct
  cases c.head.kind <;> simp

@[simp] theorem atOperator_iff {c : Tokens} {o : Operator} :
    c.atOperator o = true ↔ c.head.kind = .operator o := by
  unfold atOperator TokenKind.isOperator
  cases c.head.kind <;> simp

@[simp] theorem atArrow_iff {c : Tokens} : c.atArrow = true ↔ c.head.kind = .arrow := by
  unfold atArrow TokenKind.isArrow
  cases c.head.kind <;> simp

theorem binary?_eq_some_iff {c : Tokens} {op : BinaryOp} :
    c.binary? = some op ↔ c.head.kind = .operator (.binary op) := by
  unfold binary?
  cases c.head.kind with
  | operator o => cases o <;> simp [Operator.binary?]
  | _ => simp

theorem unary?_eq_some_iff {c : Tokens} {op : UnaryOp} :
    c.unary? = some op ↔ c.head.kind = .operator op.operator := by
  unfold unary?
  cases c.head.kind with
  | operator o => simp [Operator.unary?_eq_some_iff]
  | _ => simp

theorem skipPunct_eq_ok_iff {c c' : Tokens} {p : Punct} :
    c.skipPunct p = .ok c' ↔ c.head.kind = .punct p ∧ c.skip = .ok c' := by
  rw [skipPunct_eq]
  by_cases h : c.atPunct p = true
  · simp [h, atPunct_iff.1 h]
  · simp only [h, Bool.false_eq_true, if_false, reduceCtorEq, false_iff, not_and]
    exact fun hp => absurd (atPunct_iff.2 hp) h

/-- No operator that joins expressions is ahead. -/
def Stops (c : Tokens) : Prop := c.binary? = none ∧ c.atOperator .question = false

end Tokens

namespace Expr

/-- Parameters are symbols. -/
theorem eq_map_of_paramsOf? {items : List Expr} {params : List Symbol}
    (h : paramsOf? items = some params) : items = params.map .symbol := by
  fun_induction paramsOf? items generalizing params with
  | case1 =>
    cases h
    rfl
  | case2 s rest ih =>
    obtain ⟨ps, hp, rfl⟩ := Option.map_eq_some_iff.1 h
    rw [List.map_cons, ← ih hp]
  | case3 => cases h

/-! ## One specification for each level -/

/-- The tokens `ts` spell the well stratified tree `e`, and if it ends in the body of an arrow function
    no operator follows it. -/
structure Found (e : Expr) (ts : List Token) (c' : Tokens) : Prop where
  spelled : Spelled e ts
  stratified : e.Stratified
  stops : e.endsInArrow = true → c'.Stops

/-- What the levels of the parser give at a place. -/
structure Sound (c : Tokens) : Prop where
  expression : ∀ {e c'}, expressionAt c = .ok (e, c') →
    ∃ ts, c.Leads ts c' ∧ Found e ts c' ∧ c'.Stops
  binary : ∀ {least e c'}, least < unaryLevel → binaryAt least c = .ok (e, c') →
    ∃ ts, c.Leads ts c' ∧ Found e ts c' ∧ least < e.tightness ∧
      ∀ op, c'.binary? = some op → op.precedence ≤ least
  operators : ∀ {least left ls e c'}, least < unaryLevel → Found left ls c →
    least < left.tightness → (∀ op, c.binary? = some op → op.precedence ≤ left.tightness) →
    operatorsAt least left c = .ok (e, c') →
    ∃ ts, c.Leads ts c' ∧ Found e (ls ++ ts) c' ∧ least < e.tightness ∧
      ∀ op, c'.binary? = some op → op.precedence ≤ least
  unary : ∀ {e c'}, unaryAt c = .ok (e, c') →
    ∃ ts, c.Leads ts c' ∧ Found e ts c' ∧ unaryLevel ≤ e.tightness
  chain : ∀ {e c'}, postfixAt c = .ok (e, c') →
    ∃ ts, c.Leads ts c' ∧ Found e ts c' ∧ postfixLevel ≤ e.tightness
  accesses : ∀ {e es e' c'}, Spelled e es → e.Stratified → e.tightness = postfixLevel →
    accessesAt e c = .ok (e', c') →
    ∃ ts, c.Leads ts c' ∧ Spelled e' (es ++ ts) ∧ e'.Stratified ∧ e'.tightness = postfixLevel
  primary : ∀ {e c'}, primaryAt c = .ok (e, c') →
    ∃ ts, c.Leads ts c' ∧ Found e ts c' ∧ postfixLevel ≤ e.tightness
  list : ∀ {close es c'}, listAt close c = .ok (es, c') →
    ∃ ts t, c.Leads (ts ++ [t]) c' ∧ SpelledList es ts ∧ StratifiedList es ∧ t.kind = .punct close
  entries : ∀ {es c'}, entriesAt c = .ok (es, c') →
    ∃ ts t, c.Leads (ts ++ [t]) c' ∧ SpelledEntries es ts ∧ StratifiedEntries es ∧
      t.kind = .punct .closeBrace

section

variable {c : Tokens} (ih : ∀ c', c'.size < c.size → Sound c')

include ih

theorem operators_sound {least : Nat} {left e : Expr} {ls : List Token} {c' : Tokens}
    (hn : least < unaryLevel) (f : Found left ls c) (hl : least < left.tightness)
    (ho : ∀ op, c.binary? = some op → op.precedence ≤ left.tightness)
    (h : operatorsAt least left c = .ok (e, c')) :
    ∃ ts, c.Leads ts c' ∧ Found e (ls ++ ts) c' ∧ least < e.tightness ∧
      ∀ op, c'.binary? = some op → op.precedence ≤ least := by
  rw [operatorsAt_eq] at h
  cases hb : c.binary? with
  | none =>
    simp only [hb] at h
    cases h
    exact ⟨[], .refl c, by simpa using f, hl, by simp [hb]⟩
  | some op =>
    simp only [hb] at h
    split at h
    · rename_i hle
      cases h
      refine ⟨[], .refl c, by simpa using f, hl, fun op' hop => ?_⟩
      rw [hb] at hop
      cases hop
      exact hle
    · rename_i hle
      obtain ⟨c₁, h₁, h⟩ := bind_eq_ok_iff.1 h
      obtain ⟨⟨right, c₂⟩, h₂, h⟩ := bind_eq_ok_iff.1 h
      have l₁ := Tokens.leads_of_skip h₁
      have hp : op.precedence < unaryLevel := by cases op <;> decide
      obtain ⟨rs, l₂, f₂, hr, hs⟩ := (ih c₁ l₁.size_lt).binary hp h₂
      -- the operator behind `left` shows that it does not end in an arrow function
      have ha : left.endsInArrow = false := by
        cases hla : left.endsInArrow with
        | false => rfl
        | true => exact absurd (hb.symm.trans (f.stops hla).1) (by simp)
      have f₃ : Found (.binary op left right) (ls ++ c.head :: rs) c₂ :=
        ⟨.binary f.spelled (Tokens.binary?_eq_some_iff.1 hb) f₂.spelled,
          ⟨f.stratified, f₂.stratified, ho op hb, hr, ha⟩, f₂.stops⟩
      have l₃ := l₁.cons l₂
      obtain ⟨ts, l₄, f₄, ht, hs'⟩ :=
        (ih c₂ l₃.size_lt).operators hn f₃ (Nat.lt_of_not_le hle) hs h
      exact ⟨c.head :: (rs ++ ts), l₃.trans l₄, by simpa using f₄, ht, hs'⟩

theorem accesses_sound {e e' : Expr} {es : List Token} {c' : Tokens} (s : Spelled e es)
    (st : e.Stratified) (hl : e.tightness = postfixLevel) (h : accessesAt e c = .ok (e', c')) :
    ∃ ts, c.Leads ts c' ∧ Spelled e' (es ++ ts) ∧ e'.Stratified ∧ e'.tightness = postfixLevel := by
  have ha := endsInArrow_eq_false hl
  rw [accessesAt_eq] at h
  split at h
  · rename_i hp
    obtain ⟨c₁, h₁, h⟩ := bind_eq_ok_iff.1 h
    have l₁ := Tokens.leads_of_skip h₁
    split at h
    · rename_i name hk
      obtain ⟨c₂, h₂, h⟩ := bind_eq_ok_iff.1 h
      have l₂ := l₁.cons (Tokens.leads_of_skip h₂)
      obtain ⟨ts, l₃, s₃, st₃, ht⟩ := (ih c₂ l₂.size_lt).accesses
        (.member s (Tokens.atPunct_iff.1 hp) hk) ⟨st, Nat.le_of_eq hl.symm, ha⟩ rfl h
      exact ⟨_, l₂.trans l₃, by simpa using s₃, st₃, ht⟩
    · cases h
  split at h
  · rename_i hp
    obtain ⟨c₁, h₁, h⟩ := bind_eq_ok_iff.1 h
    have l₁ := Tokens.leads_of_skip h₁
    obtain ⟨⟨key, c₂⟩, h₂, h⟩ := bind_eq_ok_iff.1 h
    obtain ⟨ks, l₂, f₂, -⟩ := (ih c₁ l₁.size_lt).expression h₂
    obtain ⟨c₃, h₃, h⟩ := bind_eq_ok_iff.1 h
    obtain ⟨hc, h₃⟩ := Tokens.skipPunct_eq_ok_iff.1 h₃
    have l₃ := (l₁.cons l₂).trans (Tokens.leads_of_skip h₃)
    obtain ⟨ts, l₄, s₄, st₄, ht⟩ := (ih c₃ l₃.size_lt).accesses
      (.index s (Tokens.atPunct_iff.1 hp) f₂.spelled hc)
      ⟨st, f₂.stratified, Nat.le_of_eq hl.symm, ha⟩ rfl h
    exact ⟨_, l₃.trans l₄, by simpa using s₄, st₄, ht⟩
  split at h
  · rename_i hp
    obtain ⟨c₁, h₁, h⟩ := bind_eq_ok_iff.1 h
    have l₁ := Tokens.leads_of_skip h₁
    obtain ⟨⟨args, c₂⟩, h₂, h⟩ := bind_eq_ok_iff.1 h
    obtain ⟨xs, t, l₂, s₂, st₂, hc⟩ := (ih c₁ l₁.size_lt).list h₂
    have l₃ := l₁.cons l₂
    obtain ⟨ts, l₄, s₄, st₄, ht⟩ := (ih c₂ l₃.size_lt).accesses
      (.call s (Tokens.atPunct_iff.1 hp) s₂ hc) ⟨st, st₂, Nat.le_of_eq hl.symm, ha⟩ rfl h
    exact ⟨_, l₃.trans l₄, by simpa using s₄, st₄, ht⟩
  · cases h
    exact ⟨[], .refl c, by simpa using s, st, hl⟩

theorem primary_sound {e : Expr} {c' : Tokens} (h : primaryAt c = .ok (e, c')) :
    ∃ ts, c.Leads ts c' ∧ Found e ts c' ∧ postfixLevel ≤ e.tightness := by
  rw [primaryAt_eq] at h
  split at h
  · rename_i ho
    obtain ⟨c₁, h₁, h⟩ := bind_eq_ok_iff.1 h
    have l₁ := Tokens.leads_of_skip h₁
    obtain ⟨⟨items, c₂⟩, h₂, h⟩ := bind_eq_ok_iff.1 h
    obtain ⟨xs, t, l₂, s₂, st₂, hc⟩ := (ih c₁ l₁.size_lt).list h₂
    have l₃ := l₁.cons l₂
    dsimp only at h
    split at h
    · rename_i hm
      obtain ⟨c₃, h₃, h⟩ := bind_eq_ok_iff.1 h
      have l₄ := l₃.trans (Tokens.leads_of_skip h₃)
      split at h
      · cases h
      · rename_i params hp
        obtain ⟨⟨body, c₄⟩, h₄, h⟩ := bind_eq_ok_iff.1 h
        cases h
        obtain ⟨ts, l₅, f₅, hs⟩ := (ih c₃ l₄.size_lt).expression h₄
        rw [eq_map_of_paramsOf? hp] at s₂
        refine ⟨_, l₄.trans l₅, ⟨?_, f₅.stratified, fun _ => hs⟩,
          (by decide : postfixLevel ≤ arrowLevel)⟩
        simpa using Spelled.arrow ho s₂ hc (Tokens.atArrow_iff.1 hm) f₅.spelled
    · split at h
      · cases h
      · cases h
        exact ⟨_, l₃, ⟨.parens ho s₂ hc, st₂.1, by simp [endsInArrow]⟩, Nat.le_refl _⟩
      · cases h
  · rename_i ho
    obtain ⟨c₁, h₁, h⟩ := bind_eq_ok_iff.1 h
    have l₁ := Tokens.leads_of_skip h₁
    obtain ⟨⟨elements, c₂⟩, h₂, h⟩ := bind_eq_ok_iff.1 h
    cases h
    obtain ⟨xs, t, l₂, s₂, st₂, hc⟩ := (ih c₁ l₁.size_lt).list h₂
    exact ⟨_, l₁.cons l₂, ⟨.array ho s₂ hc, st₂, by simp [endsInArrow]⟩, Nat.le_refl _⟩
  · rename_i ho
    obtain ⟨c₁, h₁, h⟩ := bind_eq_ok_iff.1 h
    have l₁ := Tokens.leads_of_skip h₁
    obtain ⟨⟨entries, c₂⟩, h₂, h⟩ := bind_eq_ok_iff.1 h
    cases h
    obtain ⟨xs, t, l₂, s₂, st₂, hc⟩ := (ih c₁ l₁.size_lt).entries h₂
    exact ⟨_, l₁.cons l₂, ⟨.object ho s₂ hc, st₂, by simp [endsInArrow]⟩, Nat.le_refl _⟩
  · split at h
    · rename_i s hs
      obtain ⟨c₁, h₁, h⟩ := bind_eq_ok_iff.1 h
      have l₁ := Tokens.leads_of_skip h₁
      split at h
      · rename_i hm
        obtain ⟨c₂, h₂, h⟩ := bind_eq_ok_iff.1 h
        have l₂ := l₁.cons (Tokens.leads_of_skip h₂)
        obtain ⟨⟨body, c₃⟩, h₃, h⟩ := bind_eq_ok_iff.1 h
        cases h
        obtain ⟨ts, l₃, f₃, hs'⟩ := (ih c₂ l₂.size_lt).expression h₃
        exact ⟨_, l₂.trans l₃, ⟨.bareArrow (Token.symbol?_eq_some_iff.1 hs)
          (Tokens.atArrow_iff.1 hm) f₃.spelled, f₃.stratified, fun _ => hs'⟩,
          (by decide : postfixLevel ≤ arrowLevel)⟩
      · cases h
        exact ⟨_, l₁, ⟨.symbol (Token.symbol?_eq_some_iff.1 hs), trivial, by simp [endsInArrow]⟩,
          Nat.le_refl _⟩
    · split at h
      · rename_i l hl
        obtain ⟨c₁, h₁, h⟩ := bind_eq_ok_iff.1 h
        cases h
        exact ⟨_, Tokens.leads_of_skip h₁, ⟨.literal (Token.literal?_eq_some_iff.1 hl), trivial,
          by simp [endsInArrow]⟩, Nat.le_refl _⟩
      · cases h

theorem postfix_sound {e : Expr} {c' : Tokens} (h : postfixAt c = .ok (e, c')) :
    ∃ ts, c.Leads ts c' ∧ Found e ts c' ∧ postfixLevel ≤ e.tightness := by
  rw [postfixAt_eq] at h
  obtain ⟨⟨e₁, c₁⟩, h₁, h⟩ := bind_eq_ok_iff.1 h
  obtain ⟨ts, l₁, f₁, ht⟩ := primary_sound ih h₁
  dsimp only at h
  split at h
  · cases h
    exact ⟨ts, l₁, f₁, ht⟩
  · rename_i ha
    obtain ⟨t, rest, rfl, -⟩ := f₁.spelled.exists_cons
    have hl : e₁.tightness = postfixLevel := by
      cases e₁ with
      | arrow params body => exact absurd rfl (ha params body)
      | binary op => cases op <;> simp [tightness, BinaryOp.precedence, postfixLevel] at ht
      | conditional | pipeline | unary =>
        simp [tightness, conditionalLevel, unaryLevel, postfixLevel] at ht
      | _ => rfl
    obtain ⟨us, l₂, s₂, st₂, ht₂⟩ := (ih c₁ l₁.size_lt).accesses f₁.spelled f₁.stratified hl h
    exact ⟨_, l₁.trans l₂, ⟨s₂, st₂, by simp [endsInArrow_eq_false ht₂]⟩, Nat.le_of_eq ht₂.symm⟩

theorem unary_sound {e : Expr} {c' : Tokens} (h : unaryAt c = .ok (e, c')) :
    ∃ ts, c.Leads ts c' ∧ Found e ts c' ∧ unaryLevel ≤ e.tightness := by
  rw [unaryAt_eq] at h
  split at h
  · rename_i op ho
    obtain ⟨c₁, h₁, h⟩ := bind_eq_ok_iff.1 h
    have l₁ := Tokens.leads_of_skip h₁
    obtain ⟨⟨operand, c₂⟩, h₂, h⟩ := bind_eq_ok_iff.1 h
    cases h
    obtain ⟨ts, l₂, f₂, ht⟩ := (ih c₁ l₁.size_lt).unary h₂
    exact ⟨_, l₁.cons l₂, ⟨.unary (Tokens.unary?_eq_some_iff.1 ho) f₂.spelled,
      ⟨f₂.stratified, ht⟩, f₂.stops⟩, Nat.le_refl _⟩
  · obtain ⟨ts, l₁, f₁, ht⟩ := postfix_sound ih h
    exact ⟨ts, l₁, f₁, Nat.le_trans (by decide) ht⟩

theorem binary_sound {least : Nat} {e : Expr} {c' : Tokens} (hn : least < unaryLevel)
    (h : binaryAt least c = .ok (e, c')) :
    ∃ ts, c.Leads ts c' ∧ Found e ts c' ∧ least < e.tightness ∧
      ∀ op, c'.binary? = some op → op.precedence ≤ least := by
  rw [binaryAt_eq] at h
  obtain ⟨⟨left, c₁⟩, h₁, h⟩ := bind_eq_ok_iff.1 h
  obtain ⟨ls, l₁, f₁, ht⟩ := unary_sound ih h₁
  obtain ⟨t, rest, rfl, -⟩ := f₁.spelled.exists_cons
  obtain ⟨ts, l₂, f₂, hl, hs⟩ := (ih c₁ l₁.size_lt).operators hn f₁ (Nat.lt_of_lt_of_le hn ht)
    (fun op _ => Nat.le_trans (by cases op <;> decide) ht) h
  exact ⟨_, l₁.trans l₂, f₂, hl, hs⟩

theorem expression_sound {e : Expr} {c' : Tokens} (h : expressionAt c = .ok (e, c')) :
    ∃ ts, c.Leads ts c' ∧ Found e ts c' ∧ c'.Stops := by
  rw [expressionAt_eq] at h
  obtain ⟨⟨condition, c₁⟩, h₁, h⟩ := bind_eq_ok_iff.1 h
  obtain ⟨cs, l₁, f₁, ht, hs⟩ := binary_sound ih (by decide) h₁
  have hb : c₁.binary? = none := by
    cases hop : c₁.binary? with
    | none => rfl
    | some op => exact absurd (hs op hop) (by cases op <;> decide)
  dsimp only at h
  split at h
  · rename_i hq
    obtain ⟨t, rest, rfl, -⟩ := f₁.spelled.exists_cons
    obtain ⟨c₂, h₂, h⟩ := bind_eq_ok_iff.1 h
    have l₂ := l₁.trans (Tokens.leads_of_skip h₂)
    obtain ⟨⟨yes, c₃⟩, h₃, h⟩ := bind_eq_ok_iff.1 h
    obtain ⟨ys, l₃, f₃, -⟩ := (ih c₂ l₂.size_lt).expression h₃
    obtain ⟨c₄, h₄, h⟩ := bind_eq_ok_iff.1 h
    obtain ⟨hm, h₄⟩ := Tokens.skipPunct_eq_ok_iff.1 h₄
    have l₄ := (l₂.trans l₃).trans (Tokens.leads_of_skip h₄)
    obtain ⟨⟨alternative, c₅⟩, h₅, h⟩ := bind_eq_ok_iff.1 h
    cases h
    obtain ⟨as, l₅, f₅, hs₅⟩ := (ih c₄ l₄.size_lt).expression h₅
    have ha : condition.endsInArrow = false := by
      cases hca : condition.endsInArrow with
      | false => rfl
      | true => exact absurd (hq.symm.trans (f₁.stops hca).2) (by simp)
    refine ⟨_, l₄.trans l₅, ⟨?_, ⟨f₁.stratified, f₃.stratified, f₅.stratified, ht, ha⟩,
      f₅.stops⟩, hs₅⟩
    simpa using Spelled.conditional f₁.spelled (Tokens.atOperator_iff.1 hq) f₃.spelled hm f₅.spelled
  · rename_i hq
    cases h
    exact ⟨cs, l₁, f₁, hb, Bool.eq_false_iff.2 hq⟩

theorem list_sound {close : Punct} {es : List Expr} {c' : Tokens}
    (h : listAt close c = .ok (es, c')) :
    ∃ ts t, c.Leads (ts ++ [t]) c' ∧ SpelledList es ts ∧ StratifiedList es ∧
      t.kind = .punct close := by
  rw [listAt_eq] at h
  split at h
  · rename_i hp
    obtain ⟨c₁, h₁, h⟩ := bind_eq_ok_iff.1 h
    cases h
    exact ⟨[], c.head, Tokens.leads_of_skip h₁, .nil, trivial, Tokens.atPunct_iff.1 hp⟩
  · obtain ⟨⟨e, c₁⟩, h₁, h⟩ := bind_eq_ok_iff.1 h
    obtain ⟨ts, l₁, f₁, -⟩ := expression_sound ih h₁
    obtain ⟨t, rest, rfl, -⟩ := f₁.spelled.exists_cons
    dsimp only at h
    split at h
    · rename_i hp
      obtain ⟨c₂, h₂, h⟩ := bind_eq_ok_iff.1 h
      cases h
      exact ⟨_, c₁.head, l₁.trans (Tokens.leads_of_skip h₂), .last f₁.spelled,
        ⟨f₁.stratified, trivial⟩, Tokens.atPunct_iff.1 hp⟩
    · obtain ⟨c₂, h₂, h⟩ := bind_eq_ok_iff.1 h
      obtain ⟨hc, h₂⟩ := Tokens.skipPunct_eq_ok_iff.1 h₂
      have l₂ := l₁.trans (Tokens.leads_of_skip h₂)
      obtain ⟨⟨rest', c₃⟩, h₃, h⟩ := bind_eq_ok_iff.1 h
      cases h
      obtain ⟨us, t', l₃, s₃, st₃, ht⟩ := (ih c₂ l₂.size_lt).list h₃
      refine ⟨_, t', ?_, .cons f₁.spelled hc s₃, ⟨f₁.stratified, st₃⟩, ht⟩
      simpa using l₂.trans l₃

theorem entries_sound {es : List (ObjectKey × Expr)} {c' : Tokens}
    (h : entriesAt c = .ok (es, c')) :
    ∃ ts t, c.Leads (ts ++ [t]) c' ∧ SpelledEntries es ts ∧ StratifiedEntries es ∧
      t.kind = .punct .closeBrace := by
  rw [entriesAt_eq] at h
  split at h
  · rename_i hp
    obtain ⟨c₁, h₁, h⟩ := bind_eq_ok_iff.1 h
    cases h
    exact ⟨[], c.head, Tokens.leads_of_skip h₁, .nil, trivial, Tokens.atPunct_iff.1 hp⟩
  · split at h
    · cases h
    · rename_i key hk
      obtain ⟨hk, hkp⟩ := Token.objectKey?_eq_some_iff.1 hk
      obtain ⟨c₁, h₁, h⟩ := bind_eq_ok_iff.1 h
      obtain ⟨c₂, h₂, h⟩ := bind_eq_ok_iff.1 h
      obtain ⟨hm, h₂⟩ := Tokens.skipPunct_eq_ok_iff.1 h₂
      have l₂ := (Tokens.leads_of_skip h₁).cons (Tokens.leads_of_skip h₂)
      obtain ⟨⟨e, c₃⟩, h₃, h⟩ := bind_eq_ok_iff.1 h
      obtain ⟨ts, l₃, f₃, -⟩ := (ih c₂ l₂.size_lt).expression h₃
      have l₄ := l₂.trans l₃
      dsimp only at h
      split at h
      · rename_i hp
        obtain ⟨c₄, h₄, h⟩ := bind_eq_ok_iff.1 h
        cases h
        exact ⟨_, c₃.head, l₄.trans (Tokens.leads_of_skip h₄), .last hk hm f₃.spelled,
          ⟨hkp, f₃.stratified, trivial⟩, Tokens.atPunct_iff.1 hp⟩
      · obtain ⟨c₄, h₄, h⟩ := bind_eq_ok_iff.1 h
        obtain ⟨hc, h₄⟩ := Tokens.skipPunct_eq_ok_iff.1 h₄
        have l₅ := l₄.trans (Tokens.leads_of_skip h₄)
        obtain ⟨⟨rest, c₅⟩, h₅, h⟩ := bind_eq_ok_iff.1 h
        cases h
        obtain ⟨us, t, l₆, s₆, st₆, ht⟩ := (ih c₄ l₅.size_lt).entries h₅
        refine ⟨_, t, ?_, .cons hk hm f₃.spelled hc s₆, ⟨hkp, f₃.stratified, st₆⟩, ht⟩
        simpa using l₅.trans l₆

end

/-- What every level of the parser gives at a place, by induction on the number of tokens ahead. -/
theorem sound (c : Tokens) : Sound c := by
  have ih : ∀ c', c'.size < c.size → Sound c' := fun c' _ => sound c'
  exact ⟨expression_sound ih, binary_sound ih, operators_sound ih, unary_sound ih,
    postfix_sound ih, accesses_sound ih, primary_sound ih, list_sound ih, entries_sound ih⟩
termination_by c.size

end Expr

end DataBinding
