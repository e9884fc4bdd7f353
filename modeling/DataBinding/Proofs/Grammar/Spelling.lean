import DataBinding.Expr.Parse

/-!
# The grammar of expressions

`Expr.Spelled e ts` says that the tokens `ts` are a linearisation of the tree `e`: its operators, marks,
names and leaves, in order. `Expr.Stratified e` says that every operand of `e` binds as tightly as its
place asks for, so that no pair of parentheses is missing. A text has at most one tree with both.

Results:

* `Expr.Spelled.exists_cons`: a tree has a first token, and it is no closing mark.
* `Expr.Spelled.exists_last`: a tree has a last token, and no value comes next behind it.
* `Expr.Spelled.exists_cons_ne_operator`: what binds tighter than unary operators does not start with an
  operator.
* `Expr.endsInArrow_eq_false`: a tree at the level of accesses does not end in an arrow function.
-/

namespace DataBinding

/-! ## Leaves -/

/-- The kind of the token that spells the value of a literal. -/
def LiteralValue.kind : LiteralValue → TokenKind
  | .string s => .string s
  | .number x => .number x
  | .boolean true => .atom .true
  | .boolean false => .atom .false
  | .null => .atom .null
  | .regex pattern flags => .regex pattern flags

/-- Is the value a regular expression? -/
def LiteralValue.isRegex : LiteralValue → Bool
  | .regex .. => true
  | _ => false

/-- The kind of the token that spells the key of an entry. -/
def ObjectKey.kind : ObjectKey → TokenKind
  | .literal l => l.value.kind
  | .symbol s => .name s.name

/-- Is the key a name, a string, a number or an atom? -/
def ObjectKey.isPlain : ObjectKey → Bool
  | .literal l => !l.value.isRegex
  | .symbol _ => true

/-- The operator token that spells a unary operator. -/
def UnaryOp.operator : UnaryOp → Operator
  | .not => .not
  | .negate => .binary .subtract
  | .plus => .binary .add
  | .typeof => .typeof
  | .void => .void

/-- The token has this kind and this text. -/
def Token.Is (t : Token) (kind : TokenKind) (raw : String) : Prop := t.kind = kind ∧ t.raw = raw

theorem Token.literal?_eq_some_iff {t : Token} {l : Literal} :
    t.literal? = some l ↔ t.Is l.value.kind l.raw := by
  obtain ⟨kind, raw, position⟩ := t
  obtain ⟨value, text⟩ := l
  unfold literal? Is
  constructor
  · intro h
    split at h <;> cases h
    all_goals simp_all [LiteralValue.kind]
  · rintro ⟨hk, rfl⟩
    dsimp only at hk
    subst hk
    cases value with
    | boolean b => cases b <;> rfl
    | _ => rfl

theorem Token.symbol?_eq_some_iff {t : Token} {s : Symbol} :
    t.symbol? = some s ↔ t.Is (.name s.name) s.raw := by
  obtain ⟨kind, raw, position⟩ := t
  obtain ⟨name, text⟩ := s
  cases kind <;> simp [symbol?, Is]

theorem Token.objectKey?_eq_some_iff {t : Token} {key : ObjectKey} :
    t.objectKey? = some key ↔ t.Is key.kind key.raw ∧ key.isPlain = true := by
  cases key with
  | symbol s =>
    obtain ⟨kind, raw, position⟩ := t
    obtain ⟨name, text⟩ := s
    cases kind <;> simp [objectKey?, Is, ObjectKey.kind, ObjectKey.raw, ObjectKey.isPlain]
  | literal l =>
    have hl : t.objectKey? = some (.literal l) ↔
        t.literal? = some l ∧ l.value.isRegex = false := by
      obtain ⟨kind, raw, position⟩ := t
      obtain ⟨value, text⟩ := l
      unfold objectKey?
      cases kind with
      | regex pattern flags => cases value <;> simp [literal?, LiteralValue.isRegex]
      | atom a => cases a <;> cases value <;> simp [literal?, LiteralValue.isRegex]
      | _ => cases value <;> simp [literal?, LiteralValue.isRegex]
    rw [hl, Token.literal?_eq_some_iff]
    simp [ObjectKey.kind, ObjectKey.raw, ObjectKey.isPlain]

theorem Operator.unary?_eq_some_iff {o : Operator} {op : UnaryOp} :
    o.unary? = some op ↔ o = op.operator := by
  cases o with
  | binary b => cases b <;> cases op <;> simp [unary?, UnaryOp.operator]
  | _ => cases op <;> simp [unary?, UnaryOp.operator]

namespace Expr

/-! ## Linearisations -/

mutual

/-- The tokens are a linearisation of the tree. -/
inductive Spelled : Expr → List Token → Prop where
  | literal {l : Literal} {t : Token} (h : t.Is l.value.kind l.raw) : Spelled (.literal l) [t]
  | symbol {s : Symbol} {t : Token} (h : t.Is (.name s.name) s.raw) : Spelled (.symbol s) [t]
  | conditional {condition yes alternative : Expr} {cs ys as : List Token} {question colon : Token}
      (hc : Spelled condition cs) (hq : question.kind = .operator .question)
      (hy : Spelled yes ys) (hm : colon.kind = .punct .colon) (ha : Spelled alternative as) :
      Spelled (.conditional condition yes alternative) (cs ++ question :: (ys ++ colon :: as))
  | unary {op : UnaryOp} {operand : Expr} {ts : List Token} {t : Token}
      (ht : t.kind = .operator op.operator) (h : Spelled operand ts) :
      Spelled (.unary op operand) (t :: ts)
  | binary {op : BinaryOp} {left right : Expr} {ls rs : List Token} {t : Token}
      (hl : Spelled left ls) (ht : t.kind = .operator (.binary op)) (hr : Spelled right rs) :
      Spelled (.binary op left right) (ls ++ t :: rs)
  | member {target : Expr} {name : String} {ts : List Token} {dot t : Token}
      (h : Spelled target ts) (hd : dot.kind = .punct .dot) (ht : t.kind = .name name) :
      Spelled (.member target name) (ts ++ [dot, t])
  | index {target key : Expr} {ts ks : List Token} {opening closing : Token}
      (h : Spelled target ts) (ho : opening.kind = .punct .openBracket) (hk : Spelled key ks)
      (hc : closing.kind = .punct .closeBracket) :
      Spelled (.index target key) (ts ++ opening :: (ks ++ [closing]))
  | call {callee : Expr} {args : List Expr} {ts xs : List Token} {opening closing : Token}
      (h : Spelled callee ts) (ho : opening.kind = .punct .openParen) (hx : SpelledList args xs)
      (hc : closing.kind = .punct .closeParen) :
      Spelled (.call callee args) (ts ++ opening :: (xs ++ [closing]))
  | array {elements : List Expr} {xs : List Token} {opening closing : Token}
      (ho : opening.kind = .punct .openBracket) (hx : SpelledList elements xs)
      (hc : closing.kind = .punct .closeBracket) :
      Spelled (.array elements) (opening :: (xs ++ [closing]))
  | object {entries : List (ObjectKey × Expr)} {xs : List Token} {opening closing : Token}
      (ho : opening.kind = .punct .openBrace) (hx : SpelledEntries entries xs)
      (hc : closing.kind = .punct .closeBrace) :
      Spelled (.object entries) (opening :: (xs ++ [closing]))
  | parens {inner : Expr} {xs : List Token} {opening closing : Token}
      (ho : opening.kind = .punct .openParen) (hx : SpelledList [inner] xs)
      (hc : closing.kind = .punct .closeParen) :
      Spelled (.parens inner) (opening :: (xs ++ [closing]))
  | arrow {params : List Symbol} {body : Expr} {xs ts : List Token} {opening closing mark : Token}
      (ho : opening.kind = .punct .openParen) (hx : SpelledList (params.map .symbol) xs)
      (hc : closing.kind = .punct .closeParen) (hm : mark.kind = .arrow) (h : Spelled body ts) :
      Spelled (.arrow params body) (opening :: (xs ++ closing :: mark :: ts))
  /-- One parameter may stand bare. -/
  | bareArrow {param : Symbol} {body : Expr} {ts : List Token} {t mark : Token}
      (ht : t.Is (.name param.name) param.raw) (hm : mark.kind = .arrow) (h : Spelled body ts) :
      Spelled (.arrow [param] body) (t :: mark :: ts)

/-- The tokens are linearisations of the trees with a comma between any two. A comma may follow the
    last one. -/
inductive SpelledList : List Expr → List Token → Prop where
  | nil : SpelledList [] []
  | last {e : Expr} {ts : List Token} (h : Spelled e ts) : SpelledList [e] ts
  | cons {e : Expr} {es : List Expr} {ts us : List Token} {comma : Token} (h : Spelled e ts)
      (hc : comma.kind = .punct .comma) (hs : SpelledList es us) :
      SpelledList (e :: es) (ts ++ comma :: us)

/-- The tokens are linearisations of the entries with a comma between any two. A comma may follow the
    last one. -/
inductive SpelledEntries : List (ObjectKey × Expr) → List Token → Prop where
  | nil : SpelledEntries [] []
  | last {key : ObjectKey} {e : Expr} {t colon : Token} {ts : List Token}
      (ht : t.Is key.kind key.raw) (hm : colon.kind = .punct .colon) (h : Spelled e ts) :
      SpelledEntries [(key, e)] (t :: colon :: ts)
  | cons {key : ObjectKey} {e : Expr} {entries : List (ObjectKey × Expr)} {t colon comma : Token}
      {ts us : List Token} (ht : t.Is key.kind key.raw) (hm : colon.kind = .punct .colon)
      (h : Spelled e ts) (hc : comma.kind = .punct .comma) (hs : SpelledEntries entries us) :
      SpelledEntries ((key, e) :: entries) (t :: colon :: (ts ++ comma :: us))

end

/-- The tokens are a linearisation of the stages, each behind a pipe. A stage without arguments may do
    without parentheses. -/
inductive SpelledStages : List (Symbol × List Expr) → List Token → Prop where
  | nil : SpelledStages [] []
  | name {s : Symbol} {stages : List (Symbol × List Expr)} {pipe t : Token} {us : List Token}
      (hp : pipe.kind = .operator .pipe) (ht : t.Is (.name s.name) s.raw)
      (hs : SpelledStages stages us) : SpelledStages ((s, []) :: stages) (pipe :: t :: us)
  | call {s : Symbol} {args : List Expr} {stages : List (Symbol × List Expr)}
      {pipe t opening closing : Token} {xs us : List Token} (hp : pipe.kind = .operator .pipe)
      (ht : t.Is (.name s.name) s.raw) (ho : opening.kind = .punct .openParen)
      (hx : SpelledList args xs) (hc : closing.kind = .punct .closeParen)
      (hs : SpelledStages stages us) :
      SpelledStages ((s, args) :: stages) (pipe :: t :: opening :: (xs ++ closing :: us))

/-- The tokens are a linearisation of a whole text with this tree, which may be a pipeline. -/
inductive SpelledText : Expr → List Token → Prop where
  | expression {e : Expr} {ts : List Token} (h : Spelled e ts) : SpelledText e ts
  | pipeline {e : Expr} {stages : List (Symbol × List Expr)} {ts us : List Token}
      (h : Spelled e ts) (hs : SpelledStages stages us) :
      SpelledText (.pipeline e stages) (ts ++ us)

/-! ## Strata -/

/-- How tightly arrow functions bind: nothing comes between an arrow function and its place. -/
def arrowLevel : Nat := 9

/-- How tightly a tree binds in a source: conditionals loosest, then binary operators by precedence,
    then unary operators, then accesses and calls. -/
def tightness : Expr → Nat
  | conditional .. | pipeline .. => conditionalLevel
  | binary op _ _ => op.precedence
  | unary .. => unaryLevel
  | arrow .. => arrowLevel
  | _ => postfixLevel

/-- Is the last part of the tree the body of an arrow function? That body would take up an operator
    behind it. -/
def endsInArrow : Expr → Bool
  | arrow .. => true
  | unary _ operand => endsInArrow operand
  | binary _ _ right => endsInArrow right
  | conditional _ _ alternative => endsInArrow alternative
  | _ => false

mutual

/-- Every operand binds as tightly as its place asks for, what an operator, an access or a call follows
    does not end in an arrow function, keys of entries are plain, and there is no pipeline. -/
def Stratified : Expr → Prop
  | conditional condition yes alternative =>
    Stratified condition ∧ Stratified yes ∧ Stratified alternative ∧
      conditionalLevel < condition.tightness ∧ condition.endsInArrow = false
  | unary _ operand => Stratified operand ∧ unaryLevel ≤ operand.tightness
  | binary op left right =>
    Stratified left ∧ Stratified right ∧ op.precedence ≤ left.tightness ∧
      op.precedence < right.tightness ∧ left.endsInArrow = false
  | member target _ => Stratified target ∧ postfixLevel ≤ target.tightness ∧
      target.endsInArrow = false
  | index target key =>
    Stratified target ∧ Stratified key ∧ postfixLevel ≤ target.tightness ∧
      target.endsInArrow = false
  | literal _ | symbol _ => True
  | call callee args =>
    Stratified callee ∧ StratifiedList args ∧ postfixLevel ≤ callee.tightness ∧
      callee.endsInArrow = false
  | array elements => StratifiedList elements
  | object entries => StratifiedEntries entries
  | parens inner => Stratified inner
  | pipeline .. => False
  | arrow _ body => Stratified body

/-- Every tree of the list is well stratified. -/
def StratifiedList : List Expr → Prop
  | [] => True
  | e :: rest => Stratified e ∧ StratifiedList rest

/-- Every value of the entries is well stratified, and the keys are plain. -/
def StratifiedEntries : List (ObjectKey × Expr) → Prop
  | [] => True
  | (key, e) :: rest => key.isPlain = true ∧ Stratified e ∧ StratifiedEntries rest

end

/-- Every argument of the stages is well stratified. -/
def StratifiedStages : List (Symbol × List Expr) → Prop
  | [] => True
  | (_, args) :: rest => StratifiedList args ∧ StratifiedStages rest

/-- A whole text is well stratified: a pipeline with at least one stage may stand at its root. -/
def StratifiedText : Expr → Prop
  | pipeline e stages => Stratified e ∧ stages ≠ [] ∧ StratifiedStages stages
  | e => Stratified e

theorem stratifiedList_map_symbol (params : List Symbol) :
    StratifiedList (params.map .symbol) := by
  induction params with
  | nil => trivial
  | cons s rest ih => exact ⟨trivial, ih⟩

/-- A tree at the level of accesses and calls does not end in an arrow function. -/
theorem endsInArrow_eq_false {e : Expr} (h : e.tightness = postfixLevel) : e.endsInArrow = false := by
  cases e with
  | binary op l r => cases op <;> simp [tightness, BinaryOp.precedence, postfixLevel] at h
  | conditional | unary | arrow =>
    simp [tightness, conditionalLevel, unaryLevel, arrowLevel, postfixLevel] at h
  | _ => rfl

/-- What binds at least as tightly as accesses and does not end in an arrow function is at their
    level. -/
theorem tightness_eq_postfixLevel {e : Expr} (h : postfixLevel ≤ e.tightness)
    (ha : e.endsInArrow = false) : e.tightness = postfixLevel := by
  cases e with
  | binary op l r => cases op <;> simp [tightness, BinaryOp.precedence, postfixLevel] at h
  | conditional | pipeline | unary =>
    simp [tightness, conditionalLevel, unaryLevel, postfixLevel] at h
  | arrow => simp [endsInArrow] at ha
  | _ => rfl

/-! ## First tokens -/

/-- The token can start an expression as far as marks are concerned. -/
def IsOpening (t : Token) : Prop :=
  ∀ p, t.kind = .punct p → p = .openParen ∨ p = .openBracket ∨ p = .openBrace

theorem LiteralValue.kind_ne_punct (v : LiteralValue) (p : Punct) : v.kind ≠ .punct p := by
  cases v with
  | boolean b => cases b <;> simp [LiteralValue.kind]
  | _ => simp [LiteralValue.kind]

theorem LiteralValue.kind_ne_operator (v : LiteralValue) (o : Operator) : v.kind ≠ .operator o := by
  cases v with
  | boolean b => cases b <;> simp [LiteralValue.kind]
  | _ => simp [LiteralValue.kind]

theorem isOpening_of_punct {t : Token} {p : Punct} (ht : t.kind = .punct p)
    (h : p = .openParen ∨ p = .openBracket ∨ p = .openBrace) : IsOpening t := by
  intro p' hp
  cases ht.symm.trans hp
  exact h

theorem isOpening_of_ne_punct {t : Token} (h : ∀ p, t.kind ≠ .punct p) : IsOpening t :=
  fun p hp => absurd hp (h p)

/-- A tree has a first token, and it is no closing mark. -/
theorem Spelled.exists_cons {e : Expr} {ts : List Token} (h : Spelled e ts) :
    ∃ t rest, ts = t :: rest ∧ IsOpening t := by
  cases h with
  | literal h => exact ⟨_, _, rfl, isOpening_of_ne_punct (h.1 ▸ LiteralValue.kind_ne_punct _)⟩
  | symbol h | bareArrow h => exact ⟨_, _, rfl, isOpening_of_ne_punct (by simp [h.1])⟩
  | unary ht => exact ⟨_, _, rfl, isOpening_of_ne_punct (by simp [ht])⟩
  | array ho => exact ⟨_, _, rfl, isOpening_of_punct ho (by simp)⟩
  | object ho => exact ⟨_, _, rfl, isOpening_of_punct ho (by simp)⟩
  | parens ho | arrow ho => exact ⟨_, _, rfl, isOpening_of_punct ho (by simp)⟩
  | conditional h | binary h | member h | index h | call h =>
    obtain ⟨t, rest, rfl, ht⟩ := h.exists_cons
    exact ⟨t, _, rfl, ht⟩

theorem LiteralValue.expectsValue_kind (v : LiteralValue) : v.kind.expectsValue = false := by
  cases v with
  | boolean b => cases b <;> rfl
  | _ => rfl

/-- A tree has a last token, and no value comes next behind it. -/
theorem Spelled.exists_last {e : Expr} {ts : List Token} (h : Spelled e ts) :
    ∃ t, ts.getLast? = some t ∧ t.kind.expectsValue = false := by
  cases h with
  | @literal _ t h => exact ⟨t, rfl, h.1 ▸ LiteralValue.expectsValue_kind _⟩
  | @symbol _ t h => exact ⟨t, rfl, by rw [h.1]; rfl⟩
  | conditional _ _ _ _ h | unary _ h | binary _ _ h | arrow _ _ _ _ h | bareArrow _ _ h =>
    obtain ⟨t, hlast, ht⟩ := h.exists_last
    exact ⟨t, by simp [List.getLast?_append, List.getLast?_cons, hlast], ht⟩
  | @member _ _ _ _ t _ _ h =>
    exact ⟨t, by simp [List.getLast?_append, List.getLast?_cons], by rw [h]; rfl⟩
  | @index _ _ _ _ _ t _ _ _ h | @call _ _ _ _ _ t _ _ _ h | @array _ _ _ t _ _ h
  | @object _ _ _ t _ _ h | @parens _ _ _ t _ _ h =>
    exact ⟨t, by simp [List.getLast?_append, List.getLast?_cons], by rw [h]; rfl⟩

/-- What binds tighter than unary operators does not start with an operator. -/
theorem Spelled.exists_cons_ne_operator {e : Expr} {ts : List Token} (h : Spelled e ts)
    (hs : e.Stratified) (hl : postfixLevel ≤ e.tightness) :
    ∃ t rest, ts = t :: rest ∧ ∀ o, t.kind ≠ .operator o := by
  cases h with
  | literal h => exact ⟨_, _, rfl, h.1 ▸ LiteralValue.kind_ne_operator _⟩
  | symbol h | bareArrow h => exact ⟨_, _, rfl, by simp [h.1]⟩
  | array ho | object ho | parens ho | arrow ho => exact ⟨_, _, rfl, by simp [ho]⟩
  | member h =>
    rw [Stratified] at hs
    obtain ⟨t, rest, rfl, ht⟩ := h.exists_cons_ne_operator hs.1 hs.2.1
    exact ⟨t, _, rfl, ht⟩
  | index h | call h =>
    rw [Stratified] at hs
    obtain ⟨t, rest, rfl, ht⟩ := h.exists_cons_ne_operator hs.1 hs.2.2.1
    exact ⟨t, _, rfl, ht⟩
  | conditional | unary =>
    simp [tightness, conditionalLevel, unaryLevel, postfixLevel] at hl
  | @binary op => cases op <;> simp [tightness, BinaryOp.precedence, postfixLevel] at hl

end Expr

end DataBinding
