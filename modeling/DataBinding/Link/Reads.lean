import DataBinding.Link.Resolve

/-!
# Reads through the accessor

A chain of members of a symbol that is not direct becomes one call of the accessor, with the symbol
and the keys of the chain as arguments. In the place of a callee the last key stays a member of what
the accessor gives, so that the call keeps its receiver.

Results:

* `Config.reading_symbol_of_mem`: a parameter in sight hides the symbol of its name.
-/

namespace DataBinding

/-- An expression in which reads are calls of the accessor. -/
inductive Reading where
  /-- A read, by the arguments of its call. -/
  | read (args : List Expr)
  | other (e : Expr)

namespace Reading

/-- The expression. -/
def expr : Reading → Expr
  | read args => .call (.ofName accessorName) args
  | other e => e

/-- The member under a key. The keys of a read go on its list; `other` says how the member of any
    other expression is made. -/
def memberOf (r : Reading) (key : Expr) (other : Expr → Expr) : Reading :=
  match r with
  | read args => .read (args ++ [key])
  | .other e => .other (other e)

end Reading

namespace Config

/-- Does a symbol in the sight of the parameters `scope` stand for data behind the accessor? -/
def isReadSymbol (c : Config) (scope : List String) (s : Symbol) : Bool :=
  !scope.contains s.name && (c.recognize? s.raw).any fun r => !r.direct

/-- The text of a symbol without its dollar sign. -/
def tagOf (s : Symbol) : String :=
  match s.raw.toList with
  | '$' :: rest => String.ofList rest
  | _ => s.raw

mutual

/-- The expression with its reads written as calls. -/
def reading (c : Config) (scope : List String) : Expr → Reading
  | .symbol s =>
    if c.isReadSymbol scope s then .read [.ofString (tagOf s)] else .other (.symbol s)
  | .literal l => .other (.literal l)
  | .member target name =>
    (reading c scope target).memberOf (.ofString name) fun t => .member t name
  | .index target key =>
    let key := (reading c scope key).expr
    (reading c scope target).memberOf key fun t => .index t key
  | .call (.member target name) args =>
    .other (.call (.member (reading c scope target).expr name) (readingList c scope args))
  | .call (.index target key) args =>
    .other (.call (.index (reading c scope target).expr (reading c scope key).expr)
      (readingList c scope args))
  | .call f args => .other (.call (reading c scope f).expr (readingList c scope args))
  | .conditional condition yes alternative =>
    .other (.conditional (reading c scope condition).expr (reading c scope yes).expr
      (reading c scope alternative).expr)
  | .unary op operand => .other (.unary op (reading c scope operand).expr)
  | .binary op left right =>
    .other (.binary op (reading c scope left).expr (reading c scope right).expr)
  | .array elements => .other (.array (readingList c scope elements))
  | .object entries => .other (.object (readingEntries c scope entries))
  | .parens inner => .other (.parens (reading c scope inner).expr)
  | .pipeline input stages =>
    .other (.pipeline (reading c scope input).expr (readingStages c scope stages))
  | .arrow params body => .other (.arrow params (reading c (extendScope scope params) body).expr)

/-- The expressions of a list with their reads written as calls. -/
def readingList (c : Config) (scope : List String) : List Expr → List Expr
  | [] => []
  | e :: rest => (reading c scope e).expr :: readingList c scope rest

/-- The entries of an object literal with their reads written as calls. -/
def readingEntries (c : Config) (scope : List String) :
    List (ObjectKey × Expr) → List (ObjectKey × Expr)
  | [] => []
  | (key, e) :: rest => (key, (reading c scope e).expr) :: readingEntries c scope rest

/-- The stages of a pipeline with their reads written as calls. -/
def readingStages (c : Config) (scope : List String) :
    List (Symbol × List Expr) → List (Symbol × List Expr)
  | [] => []
  | (f, args) :: rest => (f, readingList c scope args) :: readingStages c scope rest

end

/-- The expression with its reads written as calls, where no parameter is in sight. -/
def withReads (c : Config) (e : Expr) : Expr := (c.reading [] e).expr

/-- A parameter in sight hides the symbol of its name. -/
theorem reading_symbol_of_mem (c : Config) {scope : List String} {s : Symbol}
    (h : s.name ∈ scope) : c.reading scope (.symbol s) = .other (.symbol s) := by
  simp [reading, isReadSymbol, h]

end Config

end DataBinding
