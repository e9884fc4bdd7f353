import DataBinding.Expr.Operator
import DataBinding.Json.Basic
import DataBinding.Decimal.Layout

/-!
# Expressions

The tree of a binding expression. Literals and symbols keep the text they were written as beside the
value they stand for, so that printing a tree gives that text back.

Results:

* `Expr.sizeOf_lt_of_mem_children`: the children of a node are smaller than the node.
-/

namespace DataBinding

/-- The value of a literal. -/
inductive LiteralValue where
  | string (s : String)
  | number (x : Float)
  | boolean (b : Bool)
  | null
  | regex (pattern flags : String)

/-- A literal and its text. -/
structure Literal where
  value : LiteralValue
  raw : String

namespace Literal

/-- The string literal in double quotes. -/
def string (s : String) : Literal := ⟨.string s, Json.quote s⟩

/-- The number literal with the text of the value. -/
def number (x : Float) : Literal := ⟨.number x, Decimal.valueText x⟩

/-- The key that the literal names in a path of keys: strings and numbers name one. -/
def pathSegment? (l : Literal) : Option String :=
  match l.value with
  | .string s => some s
  | .number x => some (Decimal.valueText x)
  | _ => none

end Literal

/-- A name and its text. -/
structure Symbol where
  name : String
  raw : String
  deriving DecidableEq, Repr

/-- The symbol written as its name. -/
def Symbol.ofName (name : String) : Symbol := ⟨name, name⟩

/-- The key of an entry of an object literal. -/
inductive ObjectKey where
  | literal (l : Literal)
  | symbol (s : Symbol)

/-- The key as written. -/
def ObjectKey.raw : ObjectKey → String
  | literal l => l.raw
  | symbol s => s.raw

/-- A binding expression. -/
inductive Expr where
  /-- `condition ? yes : alternative` -/
  | conditional (condition yes alternative : Expr)
  /-- `!operand` -/
  | unary (op : UnaryOp) (operand : Expr)
  /-- `left + right` -/
  | binary (op : BinaryOp) (left right : Expr)
  /-- `object.name` -/
  | member (object : Expr) (name : String)
  /-- `object[key]` -/
  | index (object key : Expr)
  /-- A string, number, boolean, null or regular expression -/
  | literal (l : Literal)
  /-- A name -/
  | symbol (s : Symbol)
  /-- `callee(args)` -/
  | call (callee : Expr) (args : List Expr)
  /-- `[elements]` -/
  | array (elements : List Expr)
  /-- An object literal, entries in the order of the text -/
  | object (entries : List (ObjectKey × Expr))
  /-- `(inner)` -/
  | parens (inner : Expr)
  /-- `input | stage | stage(args)` -/
  | pipeline (input : Expr) (stages : List (Symbol × List Expr))
  /-- `(params) => body` -/
  | arrow (params : List Symbol) (body : Expr)

/-- The field through which a node holds a child. Counts start at zero. -/
inductive Edge where
  | condition
  | yes
  | alternative
  | operand
  | left
  | right
  | object
  | key
  | callee
  | argument (i : Nat)
  | element (i : Nat)
  | value (i : Nat)
  | inner
  | input
  | stageArgument (stage i : Nat)
  | body
  deriving DecidableEq, Repr

namespace Expr

/-- The symbol written as its name. -/
def ofName (name : String) : Expr := symbol (.ofName name)

/-- The string literal in double quotes. -/
def ofString (s : String) : Expr := literal (.string s)

/-- The name of the kind of node. -/
def kindName : Expr → String
  | conditional .. => "Conditional"
  | unary .. => "Unary"
  | binary .. => "Binary"
  | member .. | index .. => "Property"
  | literal _ => "Literal"
  | symbol _ => "Symbol"
  | call .. => "Call"
  | array _ => "Array"
  | object _ => "Object"
  | parens _ => "Parentheses"
  | pipeline .. => "Filter"
  | arrow .. => "Arrow"

/-! ## Children -/

/-- The arguments of all stages of a pipeline. -/
def stageArgs (stages : List (Symbol × List Expr)) : List Expr := stages.flatMap Prod.snd

/-- The child nodes, in the order of the text. Keys of object literals, parameters and names of stages
    are no nodes. -/
def children : Expr → List Expr
  | conditional condition yes alternative => [condition, yes, alternative]
  | unary _ operand => [operand]
  | binary _ left right => [left, right]
  | member target _ => [target]
  | index target key => [target, key]
  | literal _ | symbol _ => []
  | call callee args => callee :: args
  | array elements => elements
  | object entries => entries.map Prod.snd
  | parens inner => [inner]
  | pipeline input stages => input :: stageArgs stages
  | arrow _ body => [body]

theorem sizeOf_lt_of_mem_stageArgs {stages : List (Symbol × List Expr)} {e : Expr}
    (h : e ∈ stageArgs stages) : sizeOf e < sizeOf stages := by
  obtain ⟨⟨s, args⟩, hs, he⟩ := List.mem_flatMap.1 h
  have h₁ := List.sizeOf_lt_of_mem hs
  have h₂ := List.sizeOf_lt_of_mem he
  simp only [Prod.mk.sizeOf_spec] at h₁ h₂
  omega

/-- The children of a node are smaller than the node. -/
theorem sizeOf_lt_of_mem_children {e child : Expr} (h : child ∈ e.children) :
    sizeOf child < sizeOf e := by
  cases e with
  | object entries =>
    obtain ⟨⟨k, v⟩, hv, rfl⟩ := List.mem_map.1 h
    have := List.sizeOf_lt_of_mem hv
    simp only [Prod.mk.sizeOf_spec, object.sizeOf_spec] at this ⊢
    omega
  | call callee args =>
    rcases List.mem_cons.1 h with rfl | h
    · simp only [call.sizeOf_spec]
      omega
    · have := List.sizeOf_lt_of_mem h
      simp only [call.sizeOf_spec]
      omega
  | array elements =>
    have := List.sizeOf_lt_of_mem (show child ∈ elements from h)
    simp only [array.sizeOf_spec]
    omega
  | pipeline input stages =>
    rcases List.mem_cons.1 h with rfl | h
    · simp only [pipeline.sizeOf_spec]
      omega
    · have := sizeOf_lt_of_mem_stageArgs h
      simp only [pipeline.sizeOf_spec]
      omega
  | literal | symbol => simp [children] at h
  | conditional c y a =>
    simp only [children, List.mem_cons, List.not_mem_nil, or_false] at h
    rcases h with rfl | rfl | rfl <;> simp only [conditional.sizeOf_spec] <;> omega
  | binary op l r =>
    simp only [children, List.mem_cons, List.not_mem_nil, or_false] at h
    rcases h with rfl | rfl <;> simp only [binary.sizeOf_spec] <;> omega
  | index o k =>
    simp only [children, List.mem_cons, List.not_mem_nil, or_false] at h
    rcases h with rfl | rfl <;> simp only [index.sizeOf_spec] <;> omega
  | unary op e =>
    obtain rfl := List.mem_singleton.1 h
    simp only [unary.sizeOf_spec]
    omega
  | member o n =>
    obtain rfl := List.mem_singleton.1 h
    simp only [member.sizeOf_spec]
    omega
  | parens e =>
    obtain rfl := List.mem_singleton.1 h
    simp only [parens.sizeOf_spec]
    omega
  | arrow ps b =>
    obtain rfl := List.mem_singleton.1 h
    simp only [arrow.sizeOf_spec]
    omega

/-- The node, then its descendants: each child before the next, parents before children. -/
def walk (e : Expr) : List Expr :=
  e :: e.children.attach.flatMap fun ⟨child, _⟩ => walk child
termination_by sizeOf e
decreasing_by exact sizeOf_lt_of_mem_children ‹_›

theorem walk_eq (e : Expr) : e.walk = e :: e.children.flatMap walk := by
  rw [walk, List.flatMap_subtype (g := walk) fun _ _ => rfl, List.unattach_attach]

end Expr

end DataBinding
