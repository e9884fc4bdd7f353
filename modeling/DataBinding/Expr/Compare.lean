import DataBinding.Expr.Basic

/-!
# Comparing trees

Two trees are alike when they have the same nodes with the same texts and values. Numbers compare as
numbers: both zeros are alike, and not-a-number is like nothing.
-/

namespace DataBinding

/-- Are the values alike? -/
def LiteralValue.alike : LiteralValue → LiteralValue → Bool
  | .string a, .string b => a == b
  | .number a, .number b => a == b
  | .boolean a, .boolean b => a == b
  | .null, .null => true
  | .regex p f, .regex p' f' => p == p' && f == f'
  | _, _ => false

/-- Are the literals alike in value and text? -/
def Literal.alike (a b : Literal) : Bool := a.value.alike b.value && a.raw == b.raw

/-- Are the keys alike? -/
def ObjectKey.alike : ObjectKey → ObjectKey → Bool
  | .literal a, .literal b => a.alike b
  | .symbol a, .symbol b => a == b
  | _, _ => false

namespace Expr

mutual

/-- Are the trees alike? -/
def alike : Expr → Expr → Bool
  | conditional c y a, conditional c' y' a' => alike c c' && alike y y' && alike a a'
  | unary op x, unary op' x' => op == op' && alike x x'
  | binary op l r, binary op' l' r' => op == op' && alike l l' && alike r r'
  | member o n, member o' n' => alike o o' && n == n'
  | index o k, index o' k' => alike o o' && alike k k'
  | literal l, literal l' => l.alike l'
  | symbol s, symbol s' => s == s'
  | call f args, call f' args' => alike f f' && alikeList args args'
  | array xs, array xs' => alikeList xs xs'
  | object es, object es' => alikeEntries es es'
  | parens x, parens x' => alike x x'
  | pipeline x ss, pipeline x' ss' => alike x x' && alikeStages ss ss'
  | arrow ps b, arrow ps' b' => ps == ps' && alike b b'
  | _, _ => false

/-- Are the lists alike element by element? -/
def alikeList : List Expr → List Expr → Bool
  | [], [] => true
  | x :: xs, y :: ys => alike x y && alikeList xs ys
  | _, _ => false

/-- Are the entries alike one by one? -/
def alikeEntries : List (ObjectKey × Expr) → List (ObjectKey × Expr) → Bool
  | [], [] => true
  | (k, x) :: xs, (k', y) :: ys => k.alike k' && alike x y && alikeEntries xs ys
  | _, _ => false

/-- Are the stages alike one by one? -/
def alikeStages : List (Symbol × List Expr) → List (Symbol × List Expr) → Bool
  | [], [] => true
  | (s, xs) :: rest, (s', ys) :: rest' => s == s' && alikeList xs ys && alikeStages rest rest'
  | _, _ => false

end

end Expr

end DataBinding
