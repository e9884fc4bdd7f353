import DataBinding.Expr.Parse

/-!
# The descent through the tokens

The functions of the parser once more, as they run: each steps from token to token, operators,
accesses, items of lists, entries and stages are read in loops, and the end of the input can be stepped
over like any other token, to stand at it again. Nothing in the types says that a run ends. Calls may be
nested as deep, and a loop may take as many rounds, as an allowance says, and a run gives nothing where
that is used up. A run keeps the tokens that it stepped over, also where it fails.
-/

namespace DataBinding

/-- A place in the tokens and the tokens that were stepped over. -/
structure Progress where
  ahead : Tokens
  taken : List Token

/-- A run through the tokens, which may fail, or give nothing when its allowance is used up. -/
abbrev Descent (α : Type) := ExceptT ParseError (StateT Progress Option) α

namespace Descent

variable {α β : Type}

/-! ## Steps -/

/-- The tokens ahead. -/
def ahead : Descent Tokens := ExceptT.mk fun s => some (.ok s.ahead, s)

/-- Nothing, for want of allowance. -/
def exhausted : Descent α := ExceptT.mk fun _ => none

/-- Steps over the first token. Behind the end of the input stands the end of the input again. -/
def step : Descent Unit := ExceptT.mk fun s =>
  match s.ahead.rest, s.ahead.fault with
  | t :: ts, fault => some (.ok (), ⟨⟨t, ts, fault⟩, s.taken ++ [s.ahead.head]⟩)
  | [], some e => some (.error (.lex e), s)
  | [], none => some (.ok (), ⟨s.ahead, s.taken ++ [s.ahead.head]⟩)

/-- Steps over this punctuation mark. -/
def expect (p : Punct) : Descent Unit := do
  let c ← ahead
  if c.atPunct p then step else throw (c.unexpected (.punct p))

/-- Takes rounds from `a` on until one is the last. -/
def loop (round : α → Descent (Option α)) : Nat → (a : α) → Descent α
  | 0, _ => exhausted
  | n + 1, a => do
    match ← round a with
    | none => return a
    | some b => loop round n b

/-! ## Rounds -/

/-- An operator that binds tighter than `least`, and its right operand. -/
def operatorRound (operand : Nat → Descent Expr) (least : Nat) (left : Expr) :
    Descent (Option Expr) := do
  let c ← ahead
  match c.binary? with
  | none => return none
  | some op =>
    if op.precedence ≤ least then return none
    else
      step
      let right ← operand op.precedence
      return some (.binary op left right)

/-- An item of a list that is not at its end, and the comma behind it. -/
def itemRound (item : Descent Expr) (close : Punct) (items : List Expr) :
    Descent (Option (List Expr)) := do
  let c ← ahead
  if c.atPunct close then return none
  else
    let e ← item
    let c₁ ← ahead
    if c₁.atPunct close then return some (items ++ [e])
    else
      expect .comma
      return some (items ++ [e])

/-- The items of a list up to the mark `close`, which is taken too. -/
def list (item : Descent Expr) (n : Nat) (close : Punct) : Descent (List Expr) := do
  let items ← loop (itemRound item close) n []
  expect close
  return items

/-- An entry of an object literal that is not at its end, and the comma behind it. -/
def entryRound (value : Descent Expr) (entries : List (ObjectKey × Expr)) :
    Descent (Option (List (ObjectKey × Expr))) := do
  let c ← ahead
  if c.atPunct .closeBrace then return none
  else
    match c.head.objectKey? with
    | none => throw (.invalidObjectKey c.head.position)
    | some key =>
      step
      expect .colon
      let e ← value
      let c₁ ← ahead
      if c₁.atPunct .closeBrace then return some (entries ++ [(key, e)])
      else
        expect .comma
        return some (entries ++ [(key, e)])

/-- The entries of an object literal up to the closing brace, which is taken too. -/
def entries (value : Descent Expr) (n : Nat) : Descent (List (ObjectKey × Expr)) := do
  let entries ← loop (entryRound value) n []
  expect .closeBrace
  return entries

/-- A member access or a call. -/
def accessRound (expression : Descent Expr) (n : Nat) (e : Expr) : Descent (Option Expr) := do
  let c ← ahead
  if c.atPunct .dot then
    step
    let c₁ ← ahead
    match c₁.head.kind with
    | .name s =>
      step
      return some (.member e s)
    | _ => throw (c₁.unexpected .memberName)
  else if c.atPunct .openBracket then
    step
    let key ← expression
    expect .closeBracket
    return some (.index e key)
  else if c.atPunct .openParen then
    step
    let args ← list expression n .closeParen
    return some (.call e args)
  else return none

/-- A stage behind a pipe. -/
def stageRound (chain : Descent Expr) (stages : List (Symbol × List Expr)) :
    Descent (Option (List (Symbol × List Expr))) := do
  let c ← ahead
  if c.atOperator .pipe then
    step
    let c₁ ← ahead
    let e ← chain
    match e.stage? with
    | none => throw (.invalidFilter c₁.head.position)
    | some stage => return some (stages ++ [stage])
  else return none

/-! ## Levels -/

/-- What follows an opening parenthesis at this position: an expression in parentheses, or an arrow
    function. -/
def parenthesized (expression : Descent Expr) (n position : Nat) : Descent Expr := do
  let items ← list expression n .closeParen
  let c ← ahead
  if c.atArrow then
    step
    match paramsOf? items with
    | none => throw (.invalidArrowParams position)
    | some params =>
      let body ← expression
      return .arrow params body
  else
    match items with
    | [] => throw (c.unexpected .arrowAfterParens)
    | [e] => return .parens e
    | _ => throw (.commaExpression position)

mutual

/-- A conditional, or anything that binds tighter. -/
def expression : Nat → Descent Expr
  | 0 => exhausted
  | n + 1 => do
    let condition ← binary n 0
    let c ← ahead
    if c.atOperator .question then
      step
      let yes ← expression n
      expect .colon
      let alternative ← expression n
      return .conditional condition yes alternative
    else return condition

/-- Operands joined by binary operators that bind tighter than `least`. -/
def binary : Nat → (least : Nat) → Descent Expr
  | 0, _ => exhausted
  | n + 1, least => do
    let left ← unary n
    loop (operatorRound (binary n) least) n left

/-- An operand behind any number of unary operators. -/
def unary : Nat → Descent Expr
  | 0 => exhausted
  | n + 1 => do
    let c ← ahead
    match c.unary? with
    | some op =>
      step
      let operand ← unary n
      return .unary op operand
    | none => chain n

/-- A primary expression with the accesses and calls that follow it. -/
def chain : Nat → Descent Expr
  | 0 => exhausted
  | n + 1 => do
    let e ← primary n
    match e with
    | .arrow .. => return e
    | _ => loop (accessRound (expression n) n) n e

/-- A leaf, a bracketed form, or an arrow function. -/
def primary : Nat → Descent Expr
  | 0 => exhausted
  | n + 1 => do
    let c ← ahead
    match c.head.kind with
    | .punct .openParen =>
      step
      parenthesized (expression n) n c.head.position
    | .punct .openBracket =>
      step
      let elements ← list (expression n) n .closeBracket
      return .array elements
    | .punct .openBrace =>
      step
      let entries ← entries (expression n) n
      return .object entries
    | _ =>
      match c.head.symbol? with
      | some s =>
        step
        let c₁ ← ahead
        if c₁.atArrow then
          step
          let body ← expression n
          return .arrow [s] body
        else return .symbol s
      | none =>
        match c.head.literal? with
        | some l =>
          step
          return .literal l
        | none => throw (c.unexpected .expression)

end

/-- An expression with the stages that follow it. -/
def pipeline (n : Nat) : Descent Expr := do
  let e ← expression n
  let stages ← loop (stageRound (chain n)) n []
  return if stages.isEmpty then e else .pipeline e stages

/-- The expression that all tokens ahead are. -/
def whole (n : Nat) : Descent Expr := do
  let e ← pipeline n
  let c ← ahead
  if c.head.kind.isEof then return e else throw (c.unexpected .endOfInput)

/-- The expression that a whole text is, with this allowance. -/
def parse (n : Nat) (source : String) : Option (Except ParseError Expr) :=
  match Tokens.ofSource source with
  | .error e => some (.error e)
  | .ok c => ((whole n).run.run ⟨c, []⟩).map Prod.fst

end Descent

end DataBinding
