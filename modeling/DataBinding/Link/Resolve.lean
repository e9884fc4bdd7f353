import DataBinding.Link.Basic

/-!
# Where names are read

A name that stands for no symbol, is not built in and is no parameter of an enclosing arrow function
is read from a container: a callee from the container of callees, any other name from the container
of its spelling. The member name after a point, the keys of object literals, parameters and the names
of stages are not read at all.

Results:

* `Config.resolve_literal`: a literal is left as it is.
-/

namespace DataBinding

namespace Config

/-- The member `key` of a container. -/
def containerMember (container key : String) : Expr :=
  .member (.ofName ("$" ++ container)) key

/-- A name read from the container of its spelling: after a dollar sign the one for such names, if
    there is one. -/
def lift (c : Config) (name : String) : Expr :=
  match name.toList, c.dollarContainer with
  | '$' :: rest, some dollar => containerMember dollar (String.ofList rest)
  | _, _ => containerMember c.container name

/-- An expression that is a name and nothing else is read from its container, also if it is built in.
    A symbol stays. -/
def wrapName (c : Config) : Expr → Expr
  | .symbol s => if c.isRecognized s.raw then .symbol s else c.lift s.name
  | e => e

/-- The names of parameters inside those around them. -/
def extendScope (scope : List String) (params : List Symbol) : List String :=
  scope ++ params.map Symbol.name

/-- Has the name no container to be read from? -/
def isUnknownDollar (c : Config) (name : String) : Bool :=
  name.toList.head? == some '$' && !c.allowUnknownDollar && c.dollarContainer.isNone

/-- A name where the parameters `scope` are in sight, as a callee or not. -/
def resolveName (c : Config) (scope : List String) (callee : Bool) (s : Symbol) :
    Except LinkError Expr :=
  if c.isRecognized s.raw || isBuiltin s.name || scope.contains s.name then .ok (.symbol s)
  else if c.isUnknownDollar s.name then .error (.unknownDollar s.name)
  else .ok (if callee then containerMember c.callContainer s.name else c.lift s.name)

mutual

/-- Reads every name of an expression from where it belongs. -/
def resolve (c : Config) (scope : List String) (callee : Bool) : Expr → Except LinkError Expr
  | .symbol s => c.resolveName scope callee s
  | .literal l => return .literal l
  | .conditional condition yes alternative => do
    let condition ← resolve c scope false condition
    let yes ← resolve c scope false yes
    let alternative ← resolve c scope false alternative
    return .conditional condition yes alternative
  | .unary op operand => do
    let operand ← resolve c scope false operand
    return .unary op operand
  | .binary op left right => do
    let left ← resolve c scope false left
    let right ← resolve c scope false right
    return .binary op left right
  | .member target name => do
    let target ← resolve c scope false target
    return .member target name
  | .index target key => do
    let target ← resolve c scope false target
    let key ← resolve c scope false key
    return .index target key
  | .call f args => do
    let f ← resolve c scope true f
    let args ← resolveList c scope args
    return .call f args
  | .array elements => do
    let elements ← resolveList c scope elements
    return .array elements
  | .object entries => do
    let entries ← resolveEntries c scope entries
    return .object entries
  | .parens inner => do
    let inner ← resolve c scope false inner
    return .parens inner
  | .pipeline input stages => do
    let input ← resolve c scope false input
    let stages ← resolveStages c scope stages
    return .pipeline input stages
  | .arrow params body => do
    let body ← resolve c (extendScope scope params) false body
    return .arrow params body

/-- Reads the names of a list of expressions. -/
def resolveList (c : Config) (scope : List String) : List Expr → Except LinkError (List Expr)
  | [] => return []
  | e :: rest => do
    let e ← resolve c scope false e
    let rest ← resolveList c scope rest
    return e :: rest

/-- Reads the names of the entries of an object literal. -/
def resolveEntries (c : Config) (scope : List String) :
    List (ObjectKey × Expr) → Except LinkError (List (ObjectKey × Expr))
  | [] => return []
  | (key, e) :: rest => do
    let e ← resolve c scope false e
    let rest ← resolveEntries c scope rest
    return (key, e) :: rest

/-- Reads the names of the arguments of stages. -/
def resolveStages (c : Config) (scope : List String) :
    List (Symbol × List Expr) → Except LinkError (List (Symbol × List Expr))
  | [] => return []
  | (f, args) :: rest => do
    let args ← resolveList c scope args
    let rest ← resolveStages c scope rest
    return (f, args) :: rest

end

/-- A literal is left as it is. -/
theorem resolve_literal (c : Config) (scope : List String) (callee : Bool) (l : Literal) :
    c.resolve scope callee (.literal l) = .ok (.literal l) := rfl

end Config

end DataBinding
