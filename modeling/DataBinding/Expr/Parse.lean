import DataBinding.Expr.ParseError
import DataBinding.Token.Tokenize

/-!
# From tokens to expressions

A parser of the levels of the grammar, one function a level: conditionals bind loosest, then binary
operators by precedence, then unary operators, then chains of member accesses and calls around a
primary expression. A pipeline stands only at the top.

Every function returns the tokens that follow what it parsed, in a type that says how many it took:
`Shorter c` for at least one, `NoLonger c` for any number. That is what ends the recursion.

Results:

* `Tokens.advance`: a step takes one token, and the end of the input is never stepped over.
-/

namespace DataBinding

/-! ## Tokens ahead -/

/-- The tokens ahead, of which there is always a first one, and the fault that follows the last. -/
structure Tokens where
  head : Token
  rest : List Token
  fault : Option LexError

namespace Tokens

/-- The number of tokens after the first. -/
def size (c : Tokens) : Nat := c.rest.length

/-- What follows at least one token of `c`. -/
abbrev Shorter (c : Tokens) := { c' : Tokens // c'.size < c.size }

/-- What follows any number of tokens of `c`. -/
abbrev NoLonger (c : Tokens) := { c' : Tokens // c'.size ≤ c.size }

/-- The tokens of a text. A fault in its first token leaves none. -/
def ofSource (source : String) : Except ParseError Tokens :=
  match (Cursor.start source).scan with
  | (t :: ts, fault) => .ok ⟨t, ts, fault⟩
  | ([], some e) => .error (.lex e)
  | ([], none) => .error (.unexpectedToken .expression .eof 0)

/-- The fault of asking for something else than the first token. -/
def unexpected (c : Tokens) (expected : Expected) : ParseError :=
  .unexpectedToken expected c.head.kind c.head.position

/-- The tokens after the first. Nothing follows the end of the input. -/
def advance (c : Tokens) : Except ParseError c.Shorter :=
  match h : c.rest, c.fault with
  | t :: ts, fault => .ok ⟨⟨t, ts, fault⟩, by simp [size, h]⟩
  | [], some e => .error (.lex e)
  | [], none => .error (c.unexpected .expression)

/-- Is the first token this punctuation mark? -/
def atPunct (c : Tokens) (p : Punct) : Bool := c.head.kind.isPunct p

/-- Is the first token this operator? -/
def atOperator (c : Tokens) (op : Operator) : Bool := c.head.kind.isOperator op

/-- Is the first token an arrow? -/
def atArrow (c : Tokens) : Bool := c.head.kind.isArrow

/-- The tokens after this punctuation mark. -/
def expect (c : Tokens) (p : Punct) : Except ParseError c.Shorter :=
  if c.atPunct p then c.advance else .error (c.unexpected (.punct p))

/-- The binary operator that the first token stands for. -/
def binary? (c : Tokens) : Option BinaryOp :=
  match c.head.kind with
  | .operator op => op.binary?
  | _ => none

/-- The unary operator that the first token stands for. -/
def unary? (c : Tokens) : Option UnaryOp :=
  match c.head.kind with
  | .operator op => op.unary?
  | _ => none

end Tokens

/-! ## Leaves -/

/-- The literal of a token. -/
def Token.literal? (t : Token) : Option Literal :=
  match t.kind with
  | .string s => some ⟨.string s, t.raw⟩
  | .number x => some ⟨.number x, t.raw⟩
  | .atom .true => some ⟨.boolean true, t.raw⟩
  | .atom .false => some ⟨.boolean false, t.raw⟩
  | .atom .null => some ⟨.null, t.raw⟩
  | .regex pattern flags => some ⟨.regex pattern flags, t.raw⟩
  | _ => none

/-- The symbol of a token. -/
def Token.symbol? (t : Token) : Option Symbol :=
  match t.kind with
  | .name s => some ⟨s, t.raw⟩
  | _ => none

/-- The key of an entry of an object literal that a token can be. A regular expression is none. -/
def Token.objectKey? (t : Token) : Option ObjectKey :=
  match t.kind with
  | .name s => some (.symbol ⟨s, t.raw⟩)
  | .regex .. => none
  | _ => t.literal?.map .literal

/-- The parameters that the expressions in the parentheses before an arrow are. -/
def paramsOf? : List Expr → Option (List Symbol)
  | [] => some []
  | .symbol s :: rest => (paramsOf? rest).map (s :: ·)
  | _ :: _ => none

namespace Expr

/-! ## Levels -/

mutual

/-- A conditional, or anything that binds tighter. -/
def parseExpression (c : Tokens) : Except ParseError (Expr × c.Shorter) := do
  let (condition, ⟨c₁, h₁⟩) ← parseBinary 0 c
  if c₁.atOperator .question then
    let ⟨c₂, h₂⟩ ← c₁.advance
    let (yes, ⟨c₃, h₃⟩) ← parseExpression c₂
    let ⟨c₄, h₄⟩ ← c₃.expect .colon
    let (alternative, ⟨c₅, h₅⟩) ← parseExpression c₄
    return (.conditional condition yes alternative, ⟨c₅, by omega⟩)
  else return (condition, ⟨c₁, h₁⟩)
termination_by (c.size, 4)

/-- Operands joined by binary operators that bind tighter than `least`. -/
def parseBinary (least : Nat) (c : Tokens) : Except ParseError (Expr × c.Shorter) := do
  let (left, ⟨c₁, h₁⟩) ← parseUnary c
  let (e, ⟨c₂, h₂⟩) ← parseOperators least left c₁
  return (e, ⟨c₂, by omega⟩)
termination_by (c.size, 3)

/-- Adds to `left` the operators that bind tighter than `least`, with their right operands. -/
def parseOperators (least : Nat) (left : Expr) (c : Tokens) :
    Except ParseError (Expr × c.NoLonger) := do
  match c.binary? with
  | none => return (left, ⟨c, Nat.le_refl _⟩)
  | some op =>
    if op.precedence ≤ least then return (left, ⟨c, Nat.le_refl _⟩)
    else
      let ⟨c₁, h₁⟩ ← c.advance
      let (right, ⟨c₂, h₂⟩) ← parseBinary op.precedence c₁
      let (e, ⟨c₃, h₃⟩) ← parseOperators least (.binary op left right) c₂
      return (e, ⟨c₃, by omega⟩)
termination_by (c.size, 0)

/-- An operand behind any number of unary operators. -/
def parseUnary (c : Tokens) : Except ParseError (Expr × c.Shorter) := do
  match c.unary? with
  | some op =>
    let ⟨c₁, h₁⟩ ← c.advance
    let (operand, ⟨c₂, h₂⟩) ← parseUnary c₁
    return (.unary op operand, ⟨c₂, by omega⟩)
  | none => parsePostfix c
termination_by (c.size, 2)

/-- A primary expression with the accesses and calls that follow it. Nothing follows an arrow
    function. -/
def parsePostfix (c : Tokens) : Except ParseError (Expr × c.Shorter) := do
  let (e, ⟨c₁, h₁⟩) ← parsePrimary c
  match e with
  | .arrow .. => return (e, ⟨c₁, h₁⟩)
  | _ =>
    let (e, ⟨c₂, h₂⟩) ← parseAccesses e c₁
    return (e, ⟨c₂, by omega⟩)
termination_by (c.size, 1)

/-- Adds to `e` the member accesses and calls that follow it. -/
def parseAccesses (e : Expr) (c : Tokens) : Except ParseError (Expr × c.NoLonger) := do
  if c.atPunct .dot then
    let ⟨c₁, h₁⟩ ← c.advance
    match c₁.head.kind with
    | .name s =>
      let ⟨c₂, h₂⟩ ← c₁.advance
      let (e, ⟨c₃, h₃⟩) ← parseAccesses (.member e s) c₂
      return (e, ⟨c₃, by omega⟩)
    | _ => throw (c₁.unexpected .memberName)
  else if c.atPunct .openBracket then
    let ⟨c₁, h₁⟩ ← c.advance
    let (key, ⟨c₂, h₂⟩) ← parseExpression c₁
    let ⟨c₃, h₃⟩ ← c₂.expect .closeBracket
    let (e, ⟨c₄, h₄⟩) ← parseAccesses (.index e key) c₃
    return (e, ⟨c₄, by omega⟩)
  else if c.atPunct .openParen then
    let ⟨c₁, h₁⟩ ← c.advance
    let (args, ⟨c₂, h₂⟩) ← parseList .closeParen c₁
    let (e, ⟨c₃, h₃⟩) ← parseAccesses (.call e args) c₂
    return (e, ⟨c₃, by omega⟩)
  else return (e, ⟨c, Nat.le_refl _⟩)
termination_by (c.size, 0)

/-- A leaf, a bracketed form, or an arrow function. -/
def parsePrimary (c : Tokens) : Except ParseError (Expr × c.Shorter) := do
  match c.head.kind with
  | .punct .openParen =>
    let ⟨c₁, h₁⟩ ← c.advance
    let (items, ⟨c₂, h₂⟩) ← parseList .closeParen c₁
    if c₂.atArrow then
      let ⟨c₃, h₃⟩ ← c₂.advance
      match paramsOf? items with
      | none => throw (.invalidArrowParams c.head.position)
      | some params =>
        let (body, ⟨c₄, h₄⟩) ← parseExpression c₃
        return (.arrow params body, ⟨c₄, by omega⟩)
    else
      match items with
      | [] => throw (c₂.unexpected .arrowAfterParens)
      | [e] => return (.parens e, ⟨c₂, by omega⟩)
      | _ => throw (.commaExpression c.head.position)
  | .punct .openBracket =>
    let ⟨c₁, h₁⟩ ← c.advance
    let (elements, ⟨c₂, h₂⟩) ← parseList .closeBracket c₁
    return (.array elements, ⟨c₂, by omega⟩)
  | .punct .openBrace =>
    let ⟨c₁, h₁⟩ ← c.advance
    let (entries, ⟨c₂, h₂⟩) ← parseEntries c₁
    return (.object entries, ⟨c₂, by omega⟩)
  | _ =>
    match c.head.symbol? with
    | some s =>
      let ⟨c₁, h₁⟩ ← c.advance
      if c₁.atArrow then
        let ⟨c₂, h₂⟩ ← c₁.advance
        let (body, ⟨c₃, h₃⟩) ← parseExpression c₂
        return (.arrow [s] body, ⟨c₃, by omega⟩)
      else return (.symbol s, ⟨c₁, h₁⟩)
    | none =>
      match c.head.literal? with
      | some l =>
        let ⟨c₁, h₁⟩ ← c.advance
        return (.literal l, ⟨c₁, h₁⟩)
      | none => throw (c.unexpected .expression)
termination_by (c.size, 0)

/-- Expressions between commas up to the mark `close`, which is taken too. A comma may stand before
    it. -/
def parseList (close : Punct) (c : Tokens) : Except ParseError (List Expr × c.Shorter) := do
  if c.atPunct close then
    let ⟨c₁, h₁⟩ ← c.advance
    return ([], ⟨c₁, h₁⟩)
  else
    let (e, ⟨c₁, h₁⟩) ← parseExpression c
    if c₁.atPunct close then
      let ⟨c₂, h₂⟩ ← c₁.advance
      return ([e], ⟨c₂, by omega⟩)
    else
      let ⟨c₂, h₂⟩ ← c₁.expect .comma
      let (es, ⟨c₃, h₃⟩) ← parseList close c₂
      return (e :: es, ⟨c₃, by omega⟩)
termination_by (c.size, 5)

/-- Entries of an object literal between commas up to the closing brace, which is taken too. A comma
    may stand before it. -/
def parseEntries (c : Tokens) : Except ParseError (List (ObjectKey × Expr) × c.Shorter) := do
  if c.atPunct .closeBrace then
    let ⟨c₁, h₁⟩ ← c.advance
    return ([], ⟨c₁, h₁⟩)
  else
    match c.head.objectKey? with
    | none => throw (.invalidObjectKey c.head.position)
    | some key =>
      let ⟨c₁, h₁⟩ ← c.advance
      let ⟨c₂, h₂⟩ ← c₁.expect .colon
      let (e, ⟨c₃, h₃⟩) ← parseExpression c₂
      if c₃.atPunct .closeBrace then
        let ⟨c₄, h₄⟩ ← c₃.advance
        return ([(key, e)], ⟨c₄, by omega⟩)
      else
        let ⟨c₄, h₄⟩ ← c₃.expect .comma
        let (entries, ⟨c₅, h₅⟩) ← parseEntries c₄
        return ((key, e) :: entries, ⟨c₅, by omega⟩)
termination_by (c.size, 0)

end

/-! ## Pipelines and whole texts -/

/-- The stage of a pipeline that an expression is. -/
def stage? : Expr → Option (Symbol × List Expr)
  | .symbol s => some (s, [])
  | .call (.symbol s) args => some (s, args)
  | _ => none

/-- The stages ahead, each behind a pipe. -/
def parseStages (c : Tokens) : Except ParseError (List (Symbol × List Expr) × c.NoLonger) := do
  if c.atOperator .pipe then
    let ⟨c₁, h₁⟩ ← c.advance
    let (e, ⟨c₂, h₂⟩) ← parsePostfix c₁
    match e.stage? with
    | none => throw (.invalidFilter c₁.head.position)
    | some stage =>
      let (stages, ⟨c₃, h₃⟩) ← parseStages c₂
      return (stage :: stages, ⟨c₃, by omega⟩)
  else return ([], ⟨c, Nat.le_refl _⟩)
termination_by c.size

/-- An expression with the stages that follow it. -/
def parsePipeline (c : Tokens) : Except ParseError (Expr × c.Shorter) := do
  let (e, ⟨c₁, h₁⟩) ← parseExpression c
  let (stages, ⟨c₂, h₂⟩) ← parseStages c₁
  return (if stages.isEmpty then e else .pipeline e stages, ⟨c₂, by omega⟩)

/-- The expression that a whole text is. -/
def parse (source : String) : Except ParseError Expr := do
  let c ← Tokens.ofSource source
  let (e, ⟨c₁, _⟩) ← parsePipeline c
  if c₁.head.kind.isEof then return e else throw (c₁.unexpected .endOfInput)

end Expr

end DataBinding
