/-!
# Faults in the characters of an expression

A fault of the scanner, with the position at which it was found.
-/

namespace DataBinding

/-- Why a text has no tokens. -/
inductive LexError where
  /-- No token starts with this character. -/
  | unexpectedChar (c : Char) (position : Nat)
  /-- A string ends at a line end or the end of the input. -/
  | unterminatedString (position : Nat)
  /-- A regular expression ends at a line end or the end of the input. -/
  | unterminatedRegex (position : Nat)
  /-- An escape is not one of the known sequences. -/
  | invalidEscape (sequence : String) (position : Nat)
  /-- A number is not well formed. -/
  | invalidNumber (raw : String) (position : Nat)
  /-- A flag is unknown or given twice. -/
  | invalidRegexFlags (flags : String) (position : Nat)
  /-- The operator has no place in expressions. -/
  | operatorNotAllowed (op : String) (position : Nat)
  /-- The keyword has no place in expressions. -/
  | keywordNotAllowed (word : String) (position : Nat)
  deriving DecidableEq, Repr

namespace LexError

/-- Where the fault was found. -/
def position : LexError → Nat
  | unexpectedChar _ p | unterminatedString p | unterminatedRegex p | invalidEscape _ p
  | invalidNumber _ p | invalidRegexFlags _ p | operatorNotAllowed _ p | keywordNotAllowed _ p => p

/-- The report of the fault. -/
def message : LexError → String
  | unexpectedChar c p => "Unexpected character '" ++ c.toString ++ "' at position " ++ toString p
  | unterminatedString p => "Unterminated string constant starting at position " ++ toString p
  | unterminatedRegex p => "Unterminated regular expression starting at position " ++ toString p
  | invalidEscape s p => "Invalid escape sequence '\\" ++ s ++ "' at position " ++ toString p
  | invalidNumber raw p => "Invalid number '" ++ raw ++ "' at position " ++ toString p
  | invalidRegexFlags flags p =>
    "Invalid regular expression flags '" ++ flags ++ "' at position " ++ toString p
  | operatorNotAllowed op p =>
    "Operator '" ++ op ++ "' is not allowed in expression (position " ++ toString p ++ ")"
  | keywordNotAllowed word p =>
    "Keyword '" ++ word ++ "' is not allowed in expression (position " ++ toString p ++ ")"

end LexError

end DataBinding
