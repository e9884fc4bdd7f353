import DataBinding.Config.Basic
import DataBinding.Eval.Global
import DataBinding.Method.Find
import DataBinding.Value.Operate

/-!
# Evaluating expressions

An expression is evaluated in the sight of locals, which are parameters of arrow functions. A name
stands for a local, else for a value bound from outside, else for a built-in value. The evaluation
follows the expression; only the call of an arrow function evaluates another one, and such calls are
nested up to a given depth.

Results:

* `Expr.evalIn_parens`: parentheses do not change the value.
* `lookup_of_local`: a local hides what is bound from outside and what is built in.
* `Env.call_closure`: the call of an arrow function evaluates its body.
-/

namespace DataBinding

/-- What surrounds an evaluation. -/
structure Env where
  host : Host
  /-- The values bound from outside -/
  bound : Dict Value

/-- The value of a name. -/
def lookup (env : Env) (locals : Dict Value) (name : String) : Eval Value :=
  match Dict.get? locals name with
  | some v => pure v
  | none =>
    match Dict.get? env.bound name with
    | some v => pure v
    | none =>
      if unavailableNames.contains name then Eval.fail (.unavailable name)
      else
        match globalValue? name with
        | some made => Eval.ofFresh made
        | none => Eval.fail (.notDefined name)

/-- A local hides what is bound from outside and what is built in. -/
theorem lookup_of_local {env : Env} {locals : Dict Value} {name : String} {v : Value}
    (h : Dict.get? locals name = some v) : lookup env locals name = pure v := by
  simp [lookup, h]

/-- The value of a literal. -/
def LiteralValue.eval : LiteralValue → Eval Value
  | .string s => return .string s
  | .number x => return .number x
  | .boolean b => return .boolean b
  | .null => return .null
  | .regex pattern flags =>
    match Regex.ofSource? pattern flags with
    | some re => Eval.ofFresh (Fresh.regex re)
    | none => Eval.fail (.invalidRegex pattern)

/-- The name of an entry of an object literal. -/
def ObjectKey.entryName : ObjectKey → String
  | symbol s => s.name
  | literal l => l.pathSegment?.getD l.raw

/-! ## Calls -/

/-- Calls a value, which `name` describes. -/
def callValue (call : Caller) (f this : Value) (args : List Value) (name : String) : Eval Value :=
  match f with
  | .function _ g => call g this args
  | _ => Eval.fault (.notFunction name)

/-- Calls the method or the member of a value under a key. -/
def callMember (call : Caller) (this key : Value) (args : List Value) : Eval Value :=
  match this.method? key.toText with
  | some m => m.call call args
  | none => do
    let f ← Eval.ofExcept (this.member key)
    callValue call f this args key.toText

/-- Calls the accessor: the first argument is the tag. -/
def callAccessor (host : Host) (args : List Value) : Eval Value :=
  match args with
  | [] => Eval.fault .noTag
  | tag :: keys => Eval.read host tag.toText keys

/-! ## Expressions -/

mutual

/-- Evaluates an expression, where `call` calls functions. -/
def Expr.evalIn (env : Env) (call : Caller) (locals : Dict Value) : Expr → Eval Value
  | .conditional condition yes alternative => do
    let v ← condition.evalIn env call locals
    if v.isTruthy then yes.evalIn env call locals else alternative.evalIn env call locals
  | .unary op operand => do
    let v ← operand.evalIn env call locals
    return v.unary op
  | .binary op left right => do
    let a ← left.evalIn env call locals
    match Value.chosen? op a with
    | some v => return v
    | none =>
      let b ← right.evalIn env call locals
      Eval.ofExcept (Value.binary op a b)
  | .member target name => do
    let v ← target.evalIn env call locals
    Eval.ofExcept (v.member (.string name))
  | .index target key => do
    let v ← target.evalIn env call locals
    let k ← key.evalIn env call locals
    Eval.ofExcept (v.member k)
  | .literal l => l.value.eval
  | .symbol s => lookup env locals s.name
  | .call (.symbol s) args =>
    if s.name = accessorName ∧ Dict.get? locals accessorName = none then do
      let vs ← evalList env call locals args
      callAccessor env.host vs
    else do
      let f ← lookup env locals s.name
      let vs ← evalList env call locals args
      callValue call f .undefined vs (Expr.symbol s).kindName
  | .call (.member target name) args => do
    let this ← target.evalIn env call locals
    let vs ← evalList env call locals args
    callMember call this (.string name) vs
  | .call (.index target key) args => do
    let this ← target.evalIn env call locals
    let k ← key.evalIn env call locals
    let vs ← evalList env call locals args
    callMember call this k vs
  | .call callee args => do
    let f ← callee.evalIn env call locals
    let vs ← evalList env call locals args
    callValue call f .undefined vs callee.kindName
  | .array elements => do
    let vs ← evalList env call locals elements
    Eval.ofFresh (Fresh.array vs)
  | .object entries => do
    let members ← evalEntries env call locals entries
    Eval.ofFresh (Fresh.object (Dict.ofList members))
  | .parens inner => inner.evalIn env call locals
  | .pipeline .. => Eval.fail .pipeline
  | .arrow params body =>
    Eval.ofFresh (Fresh.function (.closure (params.map Symbol.name) body locals))

/-- Evaluates expressions one after the other. -/
def evalList (env : Env) (call : Caller) (locals : Dict Value) : List Expr → Eval (List Value)
  | [] => return []
  | e :: rest => do
    let v ← e.evalIn env call locals
    let vs ← evalList env call locals rest
    return v :: vs

/-- Evaluates the entries of an object literal one after the other. -/
def evalEntries (env : Env) (call : Caller) (locals : Dict Value) :
    List (ObjectKey × Expr) → Eval (List (String × Value))
  | [] => return []
  | (key, e) :: rest => do
    let v ← e.evalIn env call locals
    let vs ← evalEntries env call locals rest
    return (key.entryName, v) :: vs

end

/-- Parentheses do not change the value. -/
theorem Expr.evalIn_parens (env : Env) (call : Caller) (locals : Dict Value) (e : Expr) :
    (Expr.parens e).evalIn env call locals = e.evalIn env call locals := by
  rw [evalIn]

/-! ## Functions -/

/-- The locals with the parameters of an arrow function. A parameter without argument is undefined, and
    the last parameter of a name counts. -/
def bindParams (locals : Dict Value) : List String → List Value → Dict Value
  | [], _ => locals
  | p :: ps, [] => bindParams (Dict.insert locals p .undefined) ps []
  | p :: ps, v :: vs => bindParams (Dict.insert locals p v) ps vs

/-- Calls a function; calls of arrow functions are nested up to `depth`. -/
def Env.call (env : Env) (depth : Nat) : Caller := fun f this args =>
  match f with
  | .native g => g.call env.host this args
  | .closure params body captured =>
    match depth with
    | 0 => throw .tooDeep
    | depth + 1 => body.evalIn env (env.call depth) (bindParams captured params args)

/-- The call of an arrow function evaluates its body. -/
theorem Env.call_closure (env : Env) (depth : Nat) (params : List String) (body : Expr)
    (captured : Dict Value) (this : Value) (args : List Value) :
    env.call (depth + 1) (.closure params body captured) this args =
      body.evalIn env (env.call depth) (bindParams captured params args) := by
  rw [Env.call]

/-- How deep calls of arrow functions are nested at most. -/
def maxCallDepth : Nat := 10000

/-- Evaluates an expression without locals. -/
def Env.eval (env : Env) (e : Expr) : Eval Value := e.evalIn env (env.call maxCallDepth) []

end DataBinding
