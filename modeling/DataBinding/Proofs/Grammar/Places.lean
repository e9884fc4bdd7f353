import DataBinding.Proofs.Grammar.Whole

/-!
# Positions do not matter to the parser

The parser looks at the kinds and texts of tokens and copies their positions into its errors. So it does
the same with tokens whose positions are forgotten, but for the positions in its errors.

Results:

* `Expr.unplaces`: every level of the parser, by induction on the number of tokens ahead.
* `Expr.parse_congr`: texts with the same tokens, wherever these stand, have the same outcome.
-/

namespace DataBinding

/-! ## Without positions -/

/-- The token without its position. -/
def Token.unplaced (t : Token) : Token := { t with position := 0 }

/-- The fault without its position. -/
def LexError.unplaced : LexError → LexError
  | unexpectedChar c _ => unexpectedChar c 0
  | unterminatedString _ => unterminatedString 0
  | unterminatedRegex _ => unterminatedRegex 0
  | invalidEscape s _ => invalidEscape s 0
  | invalidNumber raw _ => invalidNumber raw 0
  | invalidRegexFlags flags _ => invalidRegexFlags flags 0
  | operatorNotAllowed op _ => operatorNotAllowed op 0
  | keywordNotAllowed word _ => keywordNotAllowed word 0

/-- The error without its position. -/
def ParseError.unplaced : ParseError → ParseError
  | lex e => lex e.unplaced
  | unexpectedToken expected found _ => unexpectedToken expected found 0
  | invalidArrowParams _ => invalidArrowParams 0
  | commaExpression _ => commaExpression 0
  | invalidFilter _ => invalidFilter 0
  | invalidObjectKey _ => invalidObjectKey 0

namespace Tokens

variable {c : Tokens}

/-- The tokens ahead without their positions. -/
def unplaced (c : Tokens) : Tokens :=
  ⟨c.head.unplaced, c.rest.map Token.unplaced, c.fault.map LexError.unplaced⟩

/-- What a parser gives and the tokens that it leaves, these without their positions. -/
def unplacedRest {α : Type} (r : α × Tokens) : α × Tokens := (r.1, r.2.unplaced)

@[simp] theorem unplacedRest_mk {α : Type} (a : α) (c : Tokens) :
    unplacedRest (a, c) = (a, c.unplaced) := rfl

@[simp] theorem kind_head_unplaced : c.unplaced.head.kind = c.head.kind := rfl

@[simp] theorem atPunct_unplaced (p : Punct) : c.unplaced.atPunct p = c.atPunct p := rfl

@[simp] theorem binary?_unplaced : c.unplaced.binary? = c.binary? := rfl

@[simp] theorem unary?_unplaced : c.unplaced.unary? = c.unary? := rfl

@[simp] theorem symbol?_head_unplaced : c.unplaced.head.symbol? = c.head.symbol? := rfl

@[simp] theorem literal?_head_unplaced : c.unplaced.head.literal? = c.head.literal? := rfl

@[simp] theorem objectKey?_head_unplaced : c.unplaced.head.objectKey? = c.head.objectKey? := rfl

end Tokens

open Tokens

section

variable {α α' β β' : Type}

/-- The outcome without the position of its error, and what it gives changed by `f`. -/
def unplacedOutcome (f : α → α') : Except ParseError α → Except ParseError α'
  | .error e => .error e.unplaced
  | .ok a => .ok (f a)

theorem unplacedOutcome_ite (f : α → α') (q : Prop) [Decidable q] (x y : Except ParseError α) :
    unplacedOutcome f (if q then x else y) =
      if q then unplacedOutcome f x else unplacedOutcome f y := by
  split <;> rfl

theorem unplacedOutcome_id (x : Except ParseError α) :
    unplacedOutcome id x = x.mapError ParseError.unplaced := by
  cases x <;> rfl

theorem unplacedOutcome_bind {f : α → α'} {g : β → β'} {x : Except ParseError α}
    {k : α → Except ParseError β} {k' : α' → Except ParseError β'}
    (h : ∀ a, x = .ok a → k' (f a) = unplacedOutcome g (k a)) :
    unplacedOutcome f x >>= k' = unplacedOutcome g (x >>= k) := by
  cases x with
  | error e => rfl
  | ok a => exact h a rfl

end

theorem Tokens.skip_unplaced (c : Tokens) :
    c.unplaced.skip = unplacedOutcome Tokens.unplaced c.skip := by
  obtain ⟨head, rest, fault⟩ := c
  cases rest with
  | nil => cases fault <;> rfl
  | cons t ts => rfl

theorem Tokens.skipPunct_unplaced (c : Tokens) (p : Punct) :
    c.unplaced.skipPunct p = unplacedOutcome Tokens.unplaced (c.skipPunct p) := by
  rw [skipPunct_eq, skipPunct_eq, atPunct_unplaced]
  split
  · exact c.skip_unplaced
  · rfl

namespace Expr

/-! ## Every level -/

/-- A parser keeps its bound on what it leaves. -/
theorem bound_of_unbounded {α : Type} {p : Tokens → Prop}
    {x : Except ParseError (α × { c : Tokens // p c })} {a : α} {c : Tokens}
    (h : unbounded x = .ok (a, c)) : p c := by
  obtain ⟨⟨a', c', hc⟩, -, he⟩ := map_eq_ok_iff.1 h
  cases he
  exact hc

/-- Every level of the parser does the same without positions. -/
structure Unplaces (c : Tokens) : Prop where
  expression : expressionAt c.unplaced = unplacedOutcome unplacedRest (expressionAt c)
  binary : ∀ least, binaryAt least c.unplaced = unplacedOutcome unplacedRest (binaryAt least c)
  operators : ∀ least left, operatorsAt least left c.unplaced =
    unplacedOutcome unplacedRest (operatorsAt least left c)
  unary : unaryAt c.unplaced = unplacedOutcome unplacedRest (unaryAt c)
  chain : postfixAt c.unplaced = unplacedOutcome unplacedRest (postfixAt c)
  accesses : ∀ e, accessesAt e c.unplaced = unplacedOutcome unplacedRest (accessesAt e c)
  primary : primaryAt c.unplaced = unplacedOutcome unplacedRest (primaryAt c)
  list : ∀ close, listAt close c.unplaced = unplacedOutcome unplacedRest (listAt close c)
  entries : entriesAt c.unplaced = unplacedOutcome unplacedRest (entriesAt c)

theorem size_of_skip {c c' : Tokens} (h : c.skip = .ok c') : c'.size < c.size :=
  (leads_of_skip h).size_lt

theorem size_of_skipPunct {c c' : Tokens} {p : Punct} (h : c.skipPunct p = .ok c') :
    c'.size < c.size := size_of_skip (skipPunct_eq_ok_iff.1 h).2

section

variable {c : Tokens} (ih : ∀ c', c'.size < c.size → Unplaces c')

include ih

theorem operators_unplaced (least : Nat) (left : Expr) : operatorsAt least left c.unplaced =
    unplacedOutcome unplacedRest (operatorsAt least left c) := by
  rw [operatorsAt_eq, operatorsAt_eq least left c, binary?_unplaced]
  cases c.binary? with
  | none => rfl
  | some op =>
    dsimp only
    rw [unplacedOutcome_ite]
    refine ite_congr rfl (fun _ => rfl) fun _ => ?_
    rw [skip_unplaced]
    refine unplacedOutcome_bind fun c₁ h₁ => ?_
    have s₁ := size_of_skip h₁
    rw [(ih c₁ s₁).binary]
    refine unplacedOutcome_bind ?_
    rintro ⟨right, c₂⟩ h₂
    have s₂ : c₂.size < c₁.size := bound_of_unbounded h₂
    exact (ih c₂ (by omega)).operators _ _

theorem accesses_unplaced (e : Expr) :
    accessesAt e c.unplaced = unplacedOutcome unplacedRest (accessesAt e c) := by
  rw [accessesAt_eq, accessesAt_eq e c]
  simp only [unplacedOutcome_ite, skip_unplaced]
  refine ite_congr rfl (fun _ => unplacedOutcome_bind fun c₁ h₁ => ?member) fun _ =>
    ite_congr rfl (fun _ => unplacedOutcome_bind fun c₁ h₁ => ?index) fun _ =>
    ite_congr rfl (fun _ => unplacedOutcome_bind fun c₁ h₁ => ?call) fun _ => rfl
  all_goals have s₁ := size_of_skip h₁
  case member =>
    rw [kind_head_unplaced]
    cases hk : c₁.head.kind with
    | name s =>
      dsimp only
      rw [skip_unplaced]
      refine unplacedOutcome_bind fun c₂ h₂ => ?_
      have s₂ := size_of_skip h₂
      exact (ih c₂ (by omega)).accesses _
    | _ => rfl
  case index =>
    rw [(ih c₁ s₁).expression]
    refine unplacedOutcome_bind ?_
    rintro ⟨key, c₂⟩ h₂
    have s₂ : c₂.size < c₁.size := bound_of_unbounded h₂
    dsimp only [unplacedRest_mk]
    rw [skipPunct_unplaced]
    refine unplacedOutcome_bind fun c₃ h₃ => ?_
    have s₃ := size_of_skipPunct h₃
    exact (ih c₃ (by omega)).accesses _
  case call =>
    rw [(ih c₁ s₁).list]
    refine unplacedOutcome_bind ?_
    rintro ⟨args, c₂⟩ h₂
    have s₂ : c₂.size < c₁.size := bound_of_unbounded h₂
    exact (ih c₂ (by omega)).accesses _

theorem primary_unplaced :
    primaryAt c.unplaced = unplacedOutcome unplacedRest (primaryAt c) := by
  rw [primaryAt_eq, primaryAt_eq c, kind_head_unplaced]
  by_cases hp : c.head.kind = .punct .openParen
  · simp only [hp, skip_unplaced]
    refine unplacedOutcome_bind fun c₁ h₁ => ?_
    have s₁ := size_of_skip h₁
    rw [(ih c₁ s₁).list]
    refine unplacedOutcome_bind ?_
    rintro ⟨items, c₂⟩ h₂
    have s₂ : c₂.size < c₁.size := bound_of_unbounded h₂
    dsimp only [unplacedRest_mk]
    rw [unplacedOutcome_ite]
    refine ite_congr rfl (fun _ => ?_) fun _ => ?_
    · rw [skip_unplaced]
      refine unplacedOutcome_bind fun c₃ h₃ => ?_
      have s₃ := size_of_skip h₃
      cases paramsOf? items with
      | none => rfl
      | some params =>
        dsimp only
        rw [(ih c₃ (by omega)).expression]
        exact unplacedOutcome_bind fun _ _ => rfl
    · rcases items with _ | ⟨e, _ | ⟨e', rest⟩⟩ <;> rfl
  by_cases hb : c.head.kind = .punct .openBracket
  · simp only [hb, skip_unplaced]
    refine unplacedOutcome_bind fun c₁ h₁ => ?_
    rw [(ih c₁ (size_of_skip h₁)).list]
    exact unplacedOutcome_bind fun _ _ => rfl
  by_cases ho : c.head.kind = .punct .openBrace
  · simp only [ho, skip_unplaced]
    refine unplacedOutcome_bind fun c₁ h₁ => ?_
    rw [(ih c₁ (size_of_skip h₁)).entries]
    exact unplacedOutcome_bind fun _ _ => rfl
  simp only [symbol?_head_unplaced, literal?_head_unplaced, skip_unplaced]
  cases c.head.symbol? with
  | some s =>
    refine unplacedOutcome_bind fun c₁ h₁ => ?_
    have s₁ := size_of_skip h₁
    rw [unplacedOutcome_ite]
    refine ite_congr rfl (fun _ => ?_) fun _ => rfl
    rw [skip_unplaced]
    refine unplacedOutcome_bind fun c₂ h₂ => ?_
    have s₂ := size_of_skip h₂
    rw [(ih c₂ (by omega)).expression]
    exact unplacedOutcome_bind fun _ _ => rfl
  | none =>
    cases c.head.literal? with
    | some l => exact unplacedOutcome_bind fun _ _ => rfl
    | none => rfl

theorem chain_unplaced : postfixAt c.unplaced = unplacedOutcome unplacedRest (postfixAt c) := by
  rw [postfixAt_eq, postfixAt_eq c, primary_unplaced ih]
  refine unplacedOutcome_bind ?_
  rintro ⟨e, c₁⟩ h₁
  have s₁ : c₁.size < c.size := bound_of_unbounded h₁
  cases e with
  | arrow => rfl
  | _ => exact (ih c₁ s₁).accesses _

theorem unary_unplaced : unaryAt c.unplaced = unplacedOutcome unplacedRest (unaryAt c) := by
  rw [unaryAt_eq, unaryAt_eq c, unary?_unplaced]
  cases c.unary? with
  | none => exact chain_unplaced ih
  | some op =>
    dsimp only
    rw [skip_unplaced]
    refine unplacedOutcome_bind fun c₁ h₁ => ?_
    rw [(ih c₁ (size_of_skip h₁)).unary]
    exact unplacedOutcome_bind fun _ _ => rfl

theorem binary_unplaced (least : Nat) :
    binaryAt least c.unplaced = unplacedOutcome unplacedRest (binaryAt least c) := by
  rw [binaryAt_eq, binaryAt_eq least c, unary_unplaced ih]
  refine unplacedOutcome_bind ?_
  rintro ⟨left, c₁⟩ h₁
  have s₁ : c₁.size < c.size := bound_of_unbounded h₁
  exact (ih c₁ s₁).operators _ _

theorem expression_unplaced :
    expressionAt c.unplaced = unplacedOutcome unplacedRest (expressionAt c) := by
  rw [expressionAt_eq, expressionAt_eq c, binary_unplaced ih]
  refine unplacedOutcome_bind ?_
  rintro ⟨condition, c₁⟩ h₁
  have s₁ : c₁.size < c.size := bound_of_unbounded h₁
  dsimp only [unplacedRest_mk]
  rw [unplacedOutcome_ite]
  refine ite_congr rfl (fun _ => ?_) fun _ => rfl
  rw [skip_unplaced]
  refine unplacedOutcome_bind fun c₂ h₂ => ?_
  have s₂ := size_of_skip h₂
  rw [(ih c₂ (by omega)).expression]
  refine unplacedOutcome_bind ?_
  rintro ⟨yes, c₃⟩ h₃
  have s₃ : c₃.size < c₂.size := bound_of_unbounded h₃
  dsimp only [unplacedRest_mk]
  rw [skipPunct_unplaced]
  refine unplacedOutcome_bind fun c₄ h₄ => ?_
  have s₄ := size_of_skipPunct h₄
  rw [(ih c₄ (by omega)).expression]
  exact unplacedOutcome_bind fun _ _ => rfl

theorem list_unplaced (close : Punct) :
    listAt close c.unplaced = unplacedOutcome unplacedRest (listAt close c) := by
  rw [listAt_eq, listAt_eq close c, unplacedOutcome_ite]
  refine ite_congr rfl (fun _ => ?_) fun _ => ?_
  · rw [skip_unplaced]
    exact unplacedOutcome_bind fun _ _ => rfl
  · rw [expression_unplaced ih]
    refine unplacedOutcome_bind ?_
    rintro ⟨e, c₁⟩ h₁
    have s₁ : c₁.size < c.size := bound_of_unbounded h₁
    dsimp only [unplacedRest_mk]
    rw [unplacedOutcome_ite]
    refine ite_congr rfl (fun _ => ?_) fun _ => ?_
    · rw [skip_unplaced]
      exact unplacedOutcome_bind fun _ _ => rfl
    · rw [skipPunct_unplaced]
      refine unplacedOutcome_bind fun c₂ h₂ => ?_
      have s₂ := size_of_skipPunct h₂
      rw [(ih c₂ (by omega)).list]
      exact unplacedOutcome_bind fun _ _ => rfl

theorem entries_unplaced :
    entriesAt c.unplaced = unplacedOutcome unplacedRest (entriesAt c) := by
  rw [entriesAt_eq, entriesAt_eq c, unplacedOutcome_ite]
  refine ite_congr rfl (fun _ => ?_) fun _ => ?_
  · rw [skip_unplaced]
    exact unplacedOutcome_bind fun _ _ => rfl
  rw [objectKey?_head_unplaced]
  cases c.head.objectKey? with
  | none => rfl
  | some key =>
    dsimp only
    rw [skip_unplaced]
    refine unplacedOutcome_bind fun c₁ h₁ => ?_
    have s₁ := size_of_skip h₁
    rw [skipPunct_unplaced]
    refine unplacedOutcome_bind fun c₂ h₂ => ?_
    have s₂ := size_of_skipPunct h₂
    rw [(ih c₂ (by omega)).expression]
    refine unplacedOutcome_bind ?_
    rintro ⟨e, c₃⟩ h₃
    have s₃ : c₃.size < c₂.size := bound_of_unbounded h₃
    dsimp only [unplacedRest_mk]
    rw [unplacedOutcome_ite]
    refine ite_congr rfl (fun _ => ?_) fun _ => ?_
    · rw [skip_unplaced]
      exact unplacedOutcome_bind fun _ _ => rfl
    · rw [skipPunct_unplaced]
      refine unplacedOutcome_bind fun c₄ h₄ => ?_
      have s₄ := size_of_skipPunct h₄
      rw [(ih c₄ (by omega)).entries]
      exact unplacedOutcome_bind fun _ _ => rfl

end

/-- Every level does the same on the tokens ahead without their positions. -/
theorem unplaces (c : Tokens) : Unplaces c := by
  have ih : ∀ c', c'.size < c.size → Unplaces c' := fun c' _ => unplaces c'
  exact {
    expression := expression_unplaced ih
    binary := binary_unplaced ih
    operators := operators_unplaced ih
    unary := unary_unplaced ih
    chain := chain_unplaced ih
    accesses := accesses_unplaced ih
    primary := primary_unplaced ih
    list := list_unplaced ih
    entries := entries_unplaced ih }
termination_by c.size

theorem stagesAt_unplaced (c : Tokens) :
    stagesAt c.unplaced = unplacedOutcome unplacedRest (stagesAt c) := by
  rw [stagesAt_eq, stagesAt_eq c, unplacedOutcome_ite]
  refine ite_congr rfl (fun _ => ?_) fun _ => rfl
  rw [skip_unplaced]
  refine unplacedOutcome_bind fun c₁ h₁ => ?_
  have s₁ := size_of_skip h₁
  rw [(unplaces c₁).chain]
  refine unplacedOutcome_bind ?_
  rintro ⟨e, c₂⟩ h₂
  have s₂ : c₂.size < c₁.size := bound_of_unbounded h₂
  dsimp only [unplacedRest_mk]
  cases e.stage? with
  | none => rfl
  | some stage =>
    dsimp only
    rw [stagesAt_unplaced c₂]
    exact unplacedOutcome_bind fun _ _ => rfl
termination_by c.size

/-! ## Whole texts -/

/-- The expression that all the tokens ahead are. -/
def allAt (c : Tokens) : Except ParseError Expr := do
  let (e, c₁) ← pipelineAt c
  if c₁.head.kind.isEof then return e else throw (c₁.unexpected .endOfInput)

theorem parse_of_tokenize {source : String} {t : Token} {ts : List Token}
    (h : tokenize source = .ok (t :: ts)) : parse source = allAt ⟨t, ts, none⟩ := by
  rw [parse_eq, Tokens.ofSource_of_tokenize h]
  rfl

theorem allAt_unplaced (c : Tokens) :
    allAt c.unplaced = (allAt c).mapError ParseError.unplaced := by
  rw [← unplacedOutcome_id]
  unfold allAt
  rw [pipelineAt_eq, pipelineAt_eq c, (unplaces c).expression]
  simp only [bind_assoc]
  refine unplacedOutcome_bind ?_
  rintro ⟨e, c₁⟩ _
  dsimp only [unplacedRest_mk]
  rw [stagesAt_unplaced]
  refine unplacedOutcome_bind ?_
  rintro ⟨stages, c₂⟩ _
  refine Eq.trans ?_ (unplacedOutcome_ite ..).symm
  exact ite_congr rfl (fun _ => rfl) fun _ => rfl

/-- Texts with the same tokens, wherever these stand, have the same tree or the same error, but for its
    position. -/
theorem parse_congr {source source' : String} {ts ts' : List Token}
    (h : tokenize source = .ok ts) (h' : tokenize source' = .ok ts')
    (hts : ts'.map Token.unplaced = ts.map Token.unplaced) :
    (parse source').mapError ParseError.unplaced = (parse source).mapError ParseError.unplaced := by
  obtain ⟨us, last, hus, -, -⟩ := Cursor.scan_of_none (Cursor.start source)
    (by rw [tokenize_eq_ok_iff.1 h])
  cases ts with
  | nil => simp [tokenize_eq_ok_iff.1 h] at hus
  | cons t ts =>
    cases ts' with
    | nil => cases hts
    | cons t' ts' =>
      rw [List.map_cons, List.map_cons, List.cons.injEq] at hts
      have hc : (⟨t', ts', none⟩ : Tokens).unplaced = (⟨t, ts, none⟩ : Tokens).unplaced := by
        unfold Tokens.unplaced
        rw [hts.1, hts.2]
      rw [parse_of_tokenize h, parse_of_tokenize h', ← allAt_unplaced, ← allAt_unplaced, hc]

end Expr

end DataBinding
