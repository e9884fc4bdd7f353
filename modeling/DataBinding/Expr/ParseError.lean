import DataBinding.Token.Basic
import DataBinding.Token.Error

/-!
# Faults in the form of an expression
-/

namespace DataBinding

/-- What the grammar asks for at a place. -/
inductive Expected where
  | punct (p : Punct)
  | endOfInput
  | expression
  | memberName
  | arrowAfterParens
  deriving DecidableEq, Repr

/-- How a report names what was asked for. -/
def Expected.describe : Expected → String
  | punct p => p.quoted
  | endOfInput => "end of input"
  | expression => "expression"
  | memberName => "property name after '.'"
  | arrowAfterParens => "'=>' after empty parentheses"

/-- Why a text is no expression. Positions count characters. -/
inductive ParseError where
  | lex (e : LexError)
  | unexpectedToken (expected : Expected) (found : TokenKind) (position : Nat)
  /-- The parentheses before an arrow hold something that is no name. -/
  | invalidArrowParams (position : Nat)
  /-- Parentheses hold several expressions. -/
  | commaExpression (position : Nat)
  /-- A stage of a pipeline is no name and no call of a name. -/
  | invalidFilter (position : Nat)
  /-- The key of an entry is no name, string, number or atom. -/
  | invalidObjectKey (position : Nat)

/-- The report of the fault. -/
def ParseError.message : ParseError → String
  | lex e => e.message
  | unexpectedToken expected found p =>
    "Unexpected " ++ found.describe ++ " at position " ++ toString p ++ ", expected " ++
      expected.describe
  | invalidArrowParams p =>
    "Arrow function parameters must be plain names (position " ++ toString p ++ ")"
  | commaExpression p =>
    "Comma expressions are not allowed inside parentheses (position " ++ toString p ++ ")"
  | invalidFilter p =>
    "Filter stage must be a name or a call of a name (position " ++ toString p ++ ")"
  | invalidObjectKey p =>
    "Object keys must be names, strings or numbers (position " ++ toString p ++ ")"

end DataBinding
