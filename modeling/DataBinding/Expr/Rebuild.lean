import DataBinding.Expr.Basic

/-!
# Rebuilding trees child by child

`mapChildrenM` rebuilds a node with every child replaced, in the order of `children`, each child with
the edge that holds it. Recursion along it visits the nodes of a tree in the order of `walk` and gives
every node a path of edges from the root.

Results:

* `Expr.mapChildrenM_literal`: a leaf is rebuilt as it is.
-/

namespace DataBinding.Expr

variable {m : Type → Type} [Monad m]

/-- Replaces the expressions of a list in order. Number `i + k` of the edges holds element `k`. -/
def mapListM (edge : Nat → Edge) (i : Nat) :
    (xs : List Expr) → (f : (x : Expr) → x ∈ xs → Edge → m Expr) → m (List Expr)
  | [], _ => pure []
  | x :: rest, f => do
    let y ← f x List.mem_cons_self (edge i)
    let ys ← mapListM edge (i + 1) rest fun x h => f x (List.mem_cons_of_mem _ h)
    return y :: ys

/-- Replaces the values of the entries of an object literal in order. -/
def mapEntriesM (i : Nat) :
    (entries : List (ObjectKey × Expr)) →
    (f : (x : Expr) → x ∈ entries.map Prod.snd → Edge → m Expr) → m (List (ObjectKey × Expr))
  | [], _ => pure []
  | (key, x) :: rest, f => do
    let y ← f x List.mem_cons_self (.value i)
    let ys ← mapEntriesM (i + 1) rest fun x h => f x (List.mem_cons_of_mem _ h)
    return (key, y) :: ys

/-- Replaces the arguments of the stages of a pipeline in order. -/
def mapStagesM (i : Nat) :
    (stages : List (Symbol × List Expr)) →
    (f : (x : Expr) → x ∈ stageArgs stages → Edge → m Expr) → m (List (Symbol × List Expr))
  | [], _ => pure []
  | (callee, args) :: rest, f => do
    let newArgs ← mapListM (.stageArgument i) 0 args fun x h => f x (List.mem_append_left _ h)
    let ys ← mapStagesM (i + 1) rest fun x h => f x (List.mem_append_right args h)
    return (callee, newArgs) :: ys

/-- Rebuilds a node with every child replaced, in the order of `children`. -/
def mapChildrenM : (e : Expr) → (f : (x : Expr) → x ∈ e.children → Edge → m Expr) → m Expr
  | conditional c y a, f => do
    let c ← f c (by simp [children]) .condition
    let y ← f y (by simp [children]) .yes
    let a ← f a (by simp [children]) .alternative
    return conditional c y a
  | unary op x, f => do
    let x ← f x (by simp [children]) .operand
    return unary op x
  | binary op l r, f => do
    let l ← f l (by simp [children]) .left
    let r ← f r (by simp [children]) .right
    return binary op l r
  | member o name, f => do
    let o ← f o (by simp [children]) .object
    return member o name
  | index o k, f => do
    let o ← f o (by simp [children]) .object
    let k ← f k (by simp [children]) .key
    return index o k
  | literal l, _ => return literal l
  | symbol s, _ => return symbol s
  | call callee args, f => do
    let callee ← f callee (by simp [children]) .callee
    let args ← mapListM .argument 0 args fun x h => f x (by simp [children, h])
    return call callee args
  | array elements, f => do
    let elements ← mapListM .element 0 elements fun x h => f x h
    return array elements
  | object entries, f => do
    let entries ← mapEntriesM 0 entries fun x h => f x h
    return object entries
  | parens x, f => do
    let x ← f x (by simp [children]) .inner
    return parens x
  | pipeline input stages, f => do
    let input ← f input (by simp [children]) .input
    let stages ← mapStagesM 0 stages fun x h => f x (by simp [children, h])
    return pipeline input stages
  | arrow params body, f => do
    let body ← f body (by simp [children]) .body
    return arrow params body

/-- Rebuilds the tree below `path` bottom up and notes every node below the root with its path, parents
    before children. -/
def rebuildNoting (path : List Edge) (e : Expr) : StateM (List (List Edge × String)) Expr :=
  e.mapChildrenM fun child h edge => do
    modify (· ++ [(path ++ [edge], child.kindName)])
    have := sizeOf_lt_of_mem_children h
    rebuildNoting (path ++ [edge]) child
termination_by sizeOf e

/-- A leaf is rebuilt as it is. -/
theorem mapChildrenM_literal (l : Literal)
    (f : (x : Expr) → x ∈ (literal l).children → Edge → m Expr) :
    mapChildrenM (literal l) f = pure (literal l) := by
  simp [mapChildrenM]

end DataBinding.Expr
