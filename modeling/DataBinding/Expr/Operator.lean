/-!
# Operators

The binary and the unary operators of expressions, how tightly the binary ones bind, and the operator
tokens that spell them.

Results:

* `Operator.ofSpelling?_spelling`: every operator is found by its spelling.
-/

namespace DataBinding

/-- A binary operator. -/
inductive BinaryOp where
  | or
  | and
  | equal
  | notEqual
  | strictEqual
  | strictNotEqual
  | less
  | greater
  | lessEqual
  | greaterEqual
  | within
  | add
  | subtract
  | multiply
  | divide
  | modulo
  deriving DecidableEq, Repr

/-- A unary operator. -/
inductive UnaryOp where
  | not
  | negate
  | plus
  | typeof
  | void
  deriving DecidableEq, Repr

/-- An operator token. -/
inductive Operator where
  | binary (op : BinaryOp)
  | not
  | typeof
  | void
  /-- The mark between the condition and the first branch of a conditional. -/
  | question
  /-- The mark before a stage of a pipeline. -/
  | pipe
  deriving DecidableEq, Repr

namespace BinaryOp

/-- How tightly the operator binds, from 1 for the loosest to 6. -/
def precedence : BinaryOp → Nat
  | or => 1
  | and => 2
  | equal | notEqual | strictEqual | strictNotEqual => 3
  | less | greater | lessEqual | greaterEqual | within => 4
  | add | subtract => 5
  | multiply | divide | modulo => 6

/-- The operator as written. -/
def spelling : BinaryOp → String
  | or => "||"
  | and => "&&"
  | equal => "=="
  | notEqual => "!="
  | strictEqual => "==="
  | strictNotEqual => "!=="
  | less => "<"
  | greater => ">"
  | lessEqual => "<="
  | greaterEqual => ">="
  | within => "in"
  | add => "+"
  | subtract => "-"
  | multiply => "*"
  | divide => "/"
  | modulo => "%"

/-- All binary operators. -/
def all : List BinaryOp :=
  [or, and, equal, notEqual, strictEqual, strictNotEqual, less, greater, lessEqual, greaterEqual,
    within, add, subtract, multiply, divide, modulo]

end BinaryOp

namespace UnaryOp

/-- The operator as written. -/
def spelling : UnaryOp → String
  | not => "!"
  | negate => "-"
  | plus => "+"
  | typeof => "typeof"
  | void => "void"

/-- Is the operator a word, which a space separates from its operand? -/
def isWord : UnaryOp → Bool
  | typeof | void => true
  | not | negate | plus => false

end UnaryOp

namespace Operator

/-- The operator as written. -/
def spelling : Operator → String
  | binary op => op.spelling
  | not => "!"
  | typeof => "typeof"
  | void => "void"
  | question => "?"
  | pipe => "|"

/-- All operator tokens. -/
def all : List Operator :=
  BinaryOp.all.map binary ++ [not, typeof, void, question, pipe]

/-- The operator of a spelling. -/
def ofSpelling? (s : String) : Option Operator := all.find? fun op => op.spelling == s

/-- The binary operator that the token stands for. -/
def binary? : Operator → Option BinaryOp
  | binary op => some op
  | _ => none

/-- The unary operator that the token stands for. -/
def unary? : Operator → Option UnaryOp
  | not => some .not
  | binary .subtract => some .negate
  | binary .add => some .plus
  | typeof => some .typeof
  | void => some .void
  | _ => none

/-- Every operator is found by its spelling. -/
theorem ofSpelling?_spelling (op : Operator) : ofSpelling? op.spelling = some op := by
  cases op with
  | binary op => cases op <;> decide +kernel
  | _ => decide +kernel

end Operator

end DataBinding
