import DataBinding.Proofs.Outcome
import DataBinding.Expr.Parse

/-!
# The steps of the parser

The functions of the parser without the bounds on what they leave, each by the one equation that says
what it does.

Results:

* `Expr.expressionAt_eq` and its siblings: one equation for every level of the grammar.
-/

namespace DataBinding

namespace Tokens

/-- The tokens after the first. -/
def skip (c : Tokens) : Except ParseError Tokens := c.advance.map Subtype.val

/-- The tokens after this punctuation mark. -/
def skipPunct (c : Tokens) (p : Punct) : Except ParseError Tokens := (c.expect p).map Subtype.val

theorem skipPunct_eq (c : Tokens) (p : Punct) :
    c.skipPunct p = if c.atPunct p then c.skip else .error (c.unexpected (.punct p)) := by
  unfold skipPunct expect
  split <;> rfl

end Tokens

namespace Expr

/-- What a parser gives, without the bound on what it leaves. -/
def unbounded {α : Type} {p : Tokens → Prop} (x : Except ParseError (α × { c : Tokens // p c })) :
    Except ParseError (α × Tokens) :=
  x.map fun r => (r.1, r.2.val)

def expressionAt (c : Tokens) : Except ParseError (Expr × Tokens) := unbounded (parseExpression c)

def binaryAt (least : Nat) (c : Tokens) : Except ParseError (Expr × Tokens) :=
  unbounded (parseBinary least c)

def operatorsAt (least : Nat) (left : Expr) (c : Tokens) : Except ParseError (Expr × Tokens) :=
  unbounded (parseOperators least left c)

def unaryAt (c : Tokens) : Except ParseError (Expr × Tokens) := unbounded (parseUnary c)

def postfixAt (c : Tokens) : Except ParseError (Expr × Tokens) := unbounded (parsePostfix c)

def accessesAt (e : Expr) (c : Tokens) : Except ParseError (Expr × Tokens) :=
  unbounded (parseAccesses e c)

def primaryAt (c : Tokens) : Except ParseError (Expr × Tokens) := unbounded (parsePrimary c)

def listAt (close : Punct) (c : Tokens) : Except ParseError (List Expr × Tokens) :=
  unbounded (parseList close c)

def entriesAt (c : Tokens) : Except ParseError (List (ObjectKey × Expr) × Tokens) :=
  unbounded (parseEntries c)

def stagesAt (c : Tokens) : Except ParseError (List (Symbol × List Expr) × Tokens) :=
  unbounded (parseStages c)

section

variable {α β : Type} {p : Tokens → Prop}

theorem unbounded_bind (x : Except ParseError β)
    (f : β → Except ParseError (α × { c : Tokens // p c })) :
    unbounded (x >>= f) = x >>= fun b => unbounded (f b) := by
  cases x <;> rfl

theorem bind_unbounded (x : Except ParseError (α × { c : Tokens // p c }))
    (f : α × Tokens → Except ParseError β) :
    unbounded x >>= f = x >>= fun r => f (r.1, r.2.val) := by
  cases x <;> rfl

theorem unbounded_ite (q : Prop) [Decidable q]
    (x y : Except ParseError (α × { c : Tokens // p c })) :
    unbounded (if q then x else y) = if q then unbounded x else unbounded y := by
  split <;> rfl

theorem skip_bind (c : Tokens) (f : Tokens → Except ParseError β) :
    c.skip >>= f = c.advance >>= fun r => f r.val := by
  unfold Tokens.skip
  cases c.advance <;> rfl

theorem skipPunct_bind (c : Tokens) (q : Punct) (f : Tokens → Except ParseError β) :
    c.skipPunct q >>= f = c.expect q >>= fun r => f r.val := by
  unfold Tokens.skipPunct
  cases c.expect q <;> rfl

end

theorem expressionAt_eq (c : Tokens) : expressionAt c = (do
    let (condition, c₁) ← binaryAt 0 c
    if c₁.atOperator .question then
      let c₂ ← c₁.skip
      let (yes, c₃) ← expressionAt c₂
      let c₄ ← c₃.skipPunct .colon
      let (alternative, c₅) ← expressionAt c₄
      return (.conditional condition yes alternative, c₅)
    else return (condition, c₁)) := by
  unfold expressionAt binaryAt
  rw [parseExpression]
  simp only [unbounded_bind, bind_unbounded, unbounded_ite, skip_bind, skipPunct_bind]
  rfl

theorem binaryAt_eq (least : Nat) (c : Tokens) : binaryAt least c = (do
    let (left, c₁) ← unaryAt c
    operatorsAt least left c₁) := by
  unfold binaryAt unaryAt operatorsAt
  rw [parseBinary]
  simp only [unbounded_bind, bind_unbounded]
  refine bind_congr ?_
  rintro ⟨left, c₁, h₁⟩
  cases parseOperators least left c₁ <;> rfl

theorem operatorsAt_eq (least : Nat) (left : Expr) (c : Tokens) : operatorsAt least left c = (do
    match c.binary? with
    | none => return (left, c)
    | some op =>
      if op.precedence ≤ least then return (left, c)
      else
        let c₁ ← c.skip
        let (right, c₂) ← binaryAt op.precedence c₁
        operatorsAt least (.binary op left right) c₂) := by
  unfold operatorsAt binaryAt
  rw [parseOperators]
  cases c.binary? with
  | none => rfl
  | some op =>
    simp only [unbounded_bind, bind_unbounded, unbounded_ite, skip_bind]
    refine ite_congr rfl (fun _ => rfl) fun _ => bind_congr ?_
    rintro ⟨c₁, h₁⟩
    refine bind_congr ?_
    rintro ⟨right, c₂, h₂⟩
    cases parseOperators least (.binary op left right) c₂ <;> rfl

theorem unaryAt_eq (c : Tokens) : unaryAt c = (do
    match c.unary? with
    | some op =>
      let c₁ ← c.skip
      let (operand, c₂) ← unaryAt c₁
      return (.unary op operand, c₂)
    | none => postfixAt c) := by
  unfold unaryAt postfixAt
  rw [parseUnary]
  cases c.unary? with
  | none => rfl
  | some op =>
    simp only [unbounded_bind, bind_unbounded, skip_bind]
    rfl

theorem postfixAt_eq (c : Tokens) : postfixAt c = (do
    let (e, c₁) ← primaryAt c
    match e with
    | .arrow .. => return (e, c₁)
    | _ => accessesAt e c₁) := by
  unfold postfixAt primaryAt accessesAt
  rw [parsePostfix]
  simp only [unbounded_bind, bind_unbounded]
  refine bind_congr ?_
  rintro ⟨e, c₁, h₁⟩
  cases e with
  | arrow => rfl
  | _ =>
    dsimp only
    generalize parseAccesses _ c₁ = x
    cases x <;> rfl

theorem accessesAt_eq (e : Expr) (c : Tokens) : accessesAt e c = (do
    if c.atPunct .dot then
      let c₁ ← c.skip
      match c₁.head.kind with
      | .name s =>
        let c₂ ← c₁.skip
        accessesAt (.member e s) c₂
      | _ => throw (c₁.unexpected .memberName)
    else if c.atPunct .openBracket then
      let c₁ ← c.skip
      let (key, c₂) ← expressionAt c₁
      let c₃ ← c₂.skipPunct .closeBracket
      accessesAt (.index e key) c₃
    else if c.atPunct .openParen then
      let c₁ ← c.skip
      let (args, c₂) ← listAt .closeParen c₁
      accessesAt (.call e args) c₂
    else return (e, c)) := by
  unfold accessesAt expressionAt listAt
  rw [parseAccesses]
  simp only [unbounded_bind, bind_unbounded, unbounded_ite, skip_bind, skipPunct_bind]
  refine ite_congr rfl (fun _ => bind_congr ?_) fun _ =>
    ite_congr rfl (fun _ => bind_congr ?_) fun _ => ite_congr rfl (fun _ => bind_congr ?_) fun _ => rfl
  · rintro ⟨c₁, h₁⟩
    dsimp only
    cases c₁.head.kind with
    | name s =>
      simp only [unbounded_bind]
      refine bind_congr ?_
      rintro ⟨c₂, h₂⟩
      cases parseAccesses (.member e s) c₂ <;> rfl
    | _ => rfl
  · rintro ⟨c₁, h₁⟩
    refine bind_congr ?_
    rintro ⟨key, c₂, h₂⟩
    refine bind_congr ?_
    rintro ⟨c₃, h₃⟩
    cases parseAccesses (.index e key) c₃ <;> rfl
  · rintro ⟨c₁, h₁⟩
    refine bind_congr ?_
    rintro ⟨args, c₂, h₂⟩
    cases parseAccesses (.call e args) c₂ <;> rfl

theorem primaryAt_eq (c : Tokens) : primaryAt c = (do
    match c.head.kind with
    | .punct .openParen =>
      let c₁ ← c.skip
      let (items, c₂) ← listAt .closeParen c₁
      if c₂.atArrow then
        let c₃ ← c₂.skip
        match paramsOf? items with
        | none => throw (.invalidArrowParams c.head.position)
        | some params =>
          let (body, c₄) ← expressionAt c₃
          return (.arrow params body, c₄)
      else
        match items with
        | [] => throw (c₂.unexpected .arrowAfterParens)
        | [e] => return (.parens e, c₂)
        | _ => throw (.commaExpression c.head.position)
    | .punct .openBracket =>
      let c₁ ← c.skip
      let (elements, c₂) ← listAt .closeBracket c₁
      return (.array elements, c₂)
    | .punct .openBrace =>
      let c₁ ← c.skip
      let (entries, c₂) ← entriesAt c₁
      return (.object entries, c₂)
    | _ =>
      match c.head.symbol? with
      | some s =>
        let c₁ ← c.skip
        if c₁.atArrow then
          let c₂ ← c₁.skip
          let (body, c₃) ← expressionAt c₂
          return (.arrow [s] body, c₃)
        else return (.symbol s, c₁)
      | none =>
        match c.head.literal? with
        | some l =>
          let c₁ ← c.skip
          return (.literal l, c₁)
        | none => throw (c.unexpected .expression)) := by
  unfold primaryAt expressionAt listAt entriesAt
  rw [parsePrimary]
  by_cases h₁ : c.head.kind = .punct .openParen
  · simp only [h₁, unbounded_bind, bind_unbounded, skip_bind]
    refine bind_congr ?_
    rintro ⟨c₁, h₁⟩
    refine bind_congr ?_
    rintro ⟨items, c₂, h₂⟩
    dsimp only
    rw [unbounded_ite]
    refine ite_congr rfl (fun _ => ?_) fun _ => ?_
    · simp only [unbounded_bind]
      refine bind_congr ?_
      rintro ⟨c₃, h₃⟩
      dsimp only
      cases paramsOf? items with
      | none => rfl
      | some params =>
        simp only [unbounded_bind]
        rfl
    · rcases items with _ | ⟨e, _ | ⟨e', rest⟩⟩ <;> rfl
  by_cases h₂ : c.head.kind = .punct .openBracket
  · simp only [h₂, unbounded_bind, bind_unbounded, skip_bind]
    rfl
  by_cases h₃ : c.head.kind = .punct .openBrace
  · simp only [h₃, unbounded_bind, bind_unbounded, skip_bind]
    rfl
  simp only
  cases c.head.symbol? with
  | some s =>
    simp only [unbounded_bind, bind_unbounded, skip_bind]
    refine bind_congr ?_
    rintro ⟨c₁, h₁⟩
    dsimp only
    rw [unbounded_ite]
    refine ite_congr rfl (fun _ => ?_) fun _ => rfl
    simp only [unbounded_bind]
    rfl
  | none =>
    cases c.head.literal? with
    | none => rfl
    | some l =>
      simp only [unbounded_bind, skip_bind]
      rfl

theorem listAt_eq (close : Punct) (c : Tokens) : listAt close c = (do
    if c.atPunct close then
      let c₁ ← c.skip
      return ([], c₁)
    else
      let (e, c₁) ← expressionAt c
      if c₁.atPunct close then
        let c₂ ← c₁.skip
        return ([e], c₂)
      else
        let c₂ ← c₁.skipPunct .comma
        let (es, c₃) ← listAt close c₂
        return (e :: es, c₃)) := by
  unfold listAt expressionAt
  rw [parseList]
  simp only [unbounded_bind, bind_unbounded, unbounded_ite, skip_bind, skipPunct_bind]
  rfl

theorem entriesAt_eq (c : Tokens) : entriesAt c = (do
    if c.atPunct .closeBrace then
      let c₁ ← c.skip
      return ([], c₁)
    else
      match c.head.objectKey? with
      | none => throw (.invalidObjectKey c.head.position)
      | some key =>
        let c₁ ← c.skip
        let c₂ ← c₁.skipPunct .colon
        let (e, c₃) ← expressionAt c₂
        if c₃.atPunct .closeBrace then
          let c₄ ← c₃.skip
          return ([(key, e)], c₄)
        else
          let c₄ ← c₃.skipPunct .comma
          let (entries, c₅) ← entriesAt c₄
          return ((key, e) :: entries, c₅)) := by
  unfold entriesAt expressionAt
  rw [parseEntries, unbounded_ite]
  refine ite_congr rfl (fun _ => ?_) fun _ => ?_
  · simp only [unbounded_bind, skip_bind]
    rfl
  · cases c.head.objectKey? with
    | none => rfl
    | some key =>
      simp only [unbounded_bind, bind_unbounded, unbounded_ite, skip_bind, skipPunct_bind]
      rfl

theorem stagesAt_eq (c : Tokens) : stagesAt c = (do
    if c.atOperator .pipe then
      let c₁ ← c.skip
      let (e, c₂) ← postfixAt c₁
      match e.stage? with
      | none => throw (.invalidFilter c₁.head.position)
      | some stage =>
        let (stages, c₃) ← stagesAt c₂
        return (stage :: stages, c₃)
    else return ([], c)) := by
  unfold stagesAt postfixAt
  rw [parseStages, unbounded_ite]
  refine ite_congr rfl (fun _ => ?_) fun _ => rfl
  simp only [unbounded_bind, bind_unbounded, skip_bind]
  refine bind_congr ?_
  rintro ⟨c₁, h₁⟩
  refine bind_congr ?_
  rintro ⟨e, c₂, h₂⟩
  dsimp only
  cases e.stage? with
  | none => rfl
  | some stage =>
    simp only [unbounded_bind]
    rfl

end Expr

end DataBinding
