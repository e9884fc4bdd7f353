import DataBinding.Program.Basic
import DataBinding.Proofs.Printing.Embedded

/-!
# The source of a template

An expression in parentheses has the tokens that it has by itself, and so its own tree in parentheses.
A plain text is quoted, and its token is the text again. So the source that the segments of a template
make is read as the sum of their trees.

Results:

* `IsOperand.sum`: operands with plus signs between them.
* `Template.parse_render`: the tree of the source that several segments make.
-/

namespace DataBinding

open DataBinding.Expr (Spelled)

/-! ## Sums of operands -/

/-- The characters may follow an operand: a blank does, or nothing. -/
def BehindOperand (r : List Char) : Prop := ∀ c, r.head? = some c → c = ' '

/-- The text is read as the tree in the place of an operand of a sum. -/
structure IsOperand (x : String) (e : Expr) : Prop where
  lexes : ∀ r, BehindOperand r → Lexes true x.toList r false (Spelled e)
  stratified : e.Stratified
  level : BinaryOp.add.precedence ≤ e.tightness
  closed : e.endsInArrow = false

/-- The texts are read as the trees, each at the level of accesses. -/
inductive AreOperands : List String → List Expr → Prop where
  | nil : AreOperands [] []
  | cons {x : String} {e : Expr} {xs : List String} {es : List Expr} (h : IsOperand x e)
      (hl : e.tightness = Expr.postfixLevel) (hs : AreOperands xs es) :
      AreOperands (x :: xs) (e :: es)

theorem add_lt_postfixLevel : BinaryOp.add.precedence < Expr.postfixLevel := by decide

/-- A sum is an operand of a longer one. -/
theorem IsOperand.add {x y : String} {left right : Expr} (hx : IsOperand x left)
    (hy : IsOperand y right) (hl : right.tightness = Expr.postfixLevel) :
    IsOperand (x ++ " + " ++ y) (.binary .add left right) := by
  have htext : (x ++ " + " ++ y).toList =
      x.toList ++ ' ' :: (BinaryOp.add.spelling.toList ++ ' ' :: y.toList) := by
    simp [String.toList_append, BinaryOp.spelling]
  refine ⟨fun r hr => ?_, ?_, Nat.le_refl _, hy.closed⟩
  · rw [htext]
    exact .binary (fun s => hx.lexes _ fun c hc => (Option.some.inj hc).symm) (hy.lexes r hr)
  · exact ⟨hx.stratified, hy.stratified, hx.level, hl ▸ add_lt_postfixLevel, hx.closed⟩

/-- A text before others with plus signs. -/
theorem intercalate_plus (x : String) (ys : List String) :
    " + ".intercalate (x :: ys) = ys.foldl (fun sum y => sum ++ " + " ++ y) x := by
  induction ys generalizing x with
  | nil => rfl
  | cons y ys ih => exact ih (x ++ " + " ++ y)

/-- Operands with plus signs between them are read as their sum. -/
theorem IsOperand.sum {x : String} {e : Expr} {xs : List String} {es : List Expr} (h : IsOperand x e)
    (hs : AreOperands xs es) :
    IsOperand (xs.foldl (fun sum y => sum ++ " + " ++ y) x) (es.foldl (.binary .add) e) := by
  induction hs generalizing x e with
  | nil => exact h
  | cons hy hl hs ih => exact ih (h.add hy hl)

/-- An operand by itself is a whole source. -/
theorem IsOperand.parse_eq {x : String} {e : Expr} (h : IsOperand x e) : Expr.parse x = .ok e := by
  obtain ⟨ts, last, htokens, hlast, hts⟩ := (h.lexes [] fun c hc => nomatch hc).tokenize_eq
  exact Expr.parse_complete htokens hlast (.expression hts) h.stratified.stratifiedText

/-! ## The source that segments make -/

namespace Template

/-- The trees of the operands that segments are in the source of a template: a plain text is a string,
    and an expression, which is no pipeline, is in parentheses. -/
inductive Operands : List Segment → List Expr → Prop where
  | nil : Operands [] []
  | literal (text : String) {rest : List Segment} {es : List Expr} (hs : Operands rest es) :
      Operands (.literal text :: rest) (.ofString text :: es)
  | expression {source : String} {e : Expr} {rest : List Segment} {es : List Expr}
      (h : Expr.parse source = .ok e) (hp : e.isPipeline = false) (hs : Operands rest es) :
      Operands (.expression source :: rest) (.parens e :: es)

theorem isOperand_literal (text : String) :
    IsOperand (renderOperand (.literal text)) (.ofString text) := by
  refine ⟨fun r hr => ?_, trivial, Nat.le_of_lt add_lt_postfixLevel, rfl⟩
  refine (lexes_leaf (isToken_quote text) rfl fun c hc => .inl ?_).imp fun ts hleaf => ?_
  · rw [hr c hc]
    rfl
  · obtain ⟨t, hts, ht⟩ := hleaf
    rw [hts]
    exact .literal ht

theorem isOperand_expression {source : String} {e : Expr} (h : Expr.parse source = .ok e)
    (hp : e.isPipeline = false) : IsOperand (renderOperand (.expression source)) (.parens e) :=
  have phrase : IsPhrase source e := isPhrase_iff.2 ⟨h, hp⟩
  ⟨fun r _ => phrase.lexes_parens true r, phrase.stratified, Nat.le_of_lt add_lt_postfixLevel, rfl⟩

theorem Operands.areOperands {segments : List Segment} {es : List Expr} (h : Operands segments es) :
    AreOperands (segments.map renderOperand) es := by
  induction h with
  | nil => exact .nil
  | literal text _ ih => exact .cons (isOperand_literal text) rfl ih
  | expression h hp _ ih => exact .cons (isOperand_expression h hp) rfl ih

/-- There is a tree for each segment if every expression is parsed and none is a pipeline. -/
theorem exists_operands {segments : List Segment} (h : ∀ span, .expression span ∈ segments →
    ∃ e, Expr.parse span = .ok e ∧ e.isPipeline = false) : ∃ es, Operands segments es := by
  induction segments with
  | nil => exact ⟨[], .nil⟩
  | cons s rest ih =>
    obtain ⟨es, hes⟩ := ih fun span hm => h span (List.mem_cons_of_mem _ hm)
    cases s with
    | literal text => exact ⟨_, .literal text hes⟩
    | expression span =>
      obtain ⟨e, he, hp⟩ := h span List.mem_cons_self
      exact ⟨_, .expression he hp hes⟩

theorem Operands.exists_cons {s : Segment} {rest : List Segment} {es : List Expr}
    (h : Operands (s :: rest) es) : ∃ x es', es = x :: es' ∧ Operands rest es' := by
  cases h with
  | literal text hs => exact ⟨_, _, rfl, hs⟩
  | expression _ _ hs => exact ⟨_, _, rfl, hs⟩

/-- The source that several segments make is read as the sum of their trees. -/
theorem parse_render {s t : Segment} {rest : List Segment} {es : List Expr}
    (h : Operands (s :: t :: rest) es) :
    Expr.parse (render (s :: t :: rest)) = .ok (Expr.concatenate es) := by
  have htext : render (s :: t :: rest) =
      (renderOperand t :: rest.map renderOperand).foldl (fun sum y => sum ++ " + " ++ y)
        (renderOperand s) := by
    cases s <;> exact intercalate_plus _ _
  rw [htext]
  have operands := h.areOperands
  simp only [List.map_cons] at operands
  cases operands with
  | cons hs _ hrest =>
    cases hrest with
    | cons ht hl hrest => exact (hs.sum (.cons ht hl hrest)).parse_eq

end Template

end DataBinding
