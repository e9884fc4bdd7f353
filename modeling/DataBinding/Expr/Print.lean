import DataBinding.Expr.Basic
import DataBinding.Unicode.Property

/-!
# Printing expressions

The source text of a tree, with one space around binary operators and the marks of conditionals and
after commas, and none elsewhere. Literals and names are printed as they were written. An operand that
binds looser than its place allows is printed in parentheses. Arrow functions are printed as function
expressions. Pipelines have no text.
-/

namespace DataBinding

/-- A name starts with a letter, `_` or `$`. -/
def isIdentifierStart (c : Char) : Bool := Unicode.isAlphabetic c || c == '_' || c == '$'

/-- A name goes on with letters, numbers, `_` and `$`. -/
def isIdentifierPart (c : Char) : Bool := Unicode.isAlphanumeric c || c == '_' || c == '$'

/-- Can the text stand after a point as a name? -/
def isIdentifier (s : String) : Bool :=
  match s.toList with
  | [] => false
  | c :: rest => isIdentifierStart c && rest.all isIdentifierPart

/-- Why a tree has no text. -/
inductive PrintError where
  /-- A node of this kind has none. -/
  | unsupported (kindName : String)
  deriving DecidableEq, Repr

/-- The report of the error. -/
def PrintError.message : PrintError → String
  | unsupported kindName => "Cannot generate code for a " ++ kindName ++ " node"

namespace Expr

/-- How tightly conditionals bind. -/
def conditionalLevel : Nat := 0

/-- How tightly operands of unary operators bind. -/
def unaryLevel : Nat := 7

/-- How tightly objects and callees bind. -/
def postfixLevel : Nat := 8

/-- How tightly a printed node binds. -/
def level : Expr → Nat
  | arrow .. | conditional .. | pipeline .. => conditionalLevel
  | binary op _ _ => op.precedence
  | unary .. => unaryLevel
  | _ => postfixLevel

/-- The text of an operand in a place that asks for `least`. -/
def wrapped (least : Nat) (e : Expr) (text : String) : String :=
  if e.level < least then "(" ++ text ++ ")" else text

/-- Is a space needed between the operator and this text of its operand? -/
def needsSpace (op : UnaryOp) (operand : String) : Bool :=
  match op with
  | .negate => operand.toList.head? == some '-'
  | .plus => operand.toList.head? == some '+'
  | _ => op.isWord

/-- The access to a member: after a point if the name can stand there, else as a quoted key. -/
def memberText (object name : String) : String :=
  if isIdentifier name then object ++ "." ++ name else object ++ "[" ++ Json.quote name ++ "]"

mutual

/-- The source text of a tree. -/
def print : Expr → Except PrintError String
  | conditional condition yes alternative => do
    let c ← print condition
    let y ← print yes
    let a ← print alternative
    return wrapped (conditionalLevel + 1) condition c ++ " ? " ++ y ++ " : " ++ a
  | unary op operand => do
    let x ← print operand
    let x := wrapped unaryLevel operand x
    return op.spelling ++ (if needsSpace op x then " " else "") ++ x
  | binary op left right => do
    let l ← print left
    let r ← print right
    return wrapped op.precedence left l ++ " " ++ op.spelling ++ " " ++
      wrapped (op.precedence + 1) right r
  | member target name => do
    let t ← print target
    return memberText (wrapped postfixLevel target t) name
  | index target key => do
    let t ← print target
    let k ← print key
    return wrapped postfixLevel target t ++ "[" ++ k ++ "]"
  | literal l => return l.raw
  | symbol s => return s.raw
  | call callee args => do
    let f ← print callee
    let xs ← printList args
    return wrapped postfixLevel callee f ++ "(" ++ ", ".intercalate xs ++ ")"
  | array elements => do
    let xs ← printList elements
    return "[" ++ ", ".intercalate xs ++ "]"
  | object entries => do
    let xs ← printEntries entries
    return "\x7b" ++ ", ".intercalate xs ++ "\x7d"
  | parens inner => do
    let x ← print inner
    return "(" ++ x ++ ")"
  | arrow params body => do
    let b ← print body
    return "function(" ++ ", ".intercalate (params.map Symbol.raw) ++ ")\x7breturn " ++ b ++ "\x7d"
  | pipeline input stages => throw (.unsupported (pipeline input stages).kindName)

/-- The texts of a list of trees. -/
def printList : List Expr → Except PrintError (List String)
  | [] => return []
  | e :: rest => do
    let x ← print e
    let xs ← printList rest
    return x :: xs

/-- The texts of the entries of an object literal. -/
def printEntries : List (ObjectKey × Expr) → Except PrintError (List String)
  | [] => return []
  | (key, e) :: rest => do
    let x ← print e
    let xs ← printEntries rest
    return (key.raw ++ ": " ++ x) :: xs

end

end Expr

end DataBinding
