import DataBinding.Expr.Operator
import DataBinding.Decimal.Layout
import DataBinding.Text.Visible

/-!
# Tokens

The tokens of expressions, each with the text it was read from and the position of that text. Positions
count characters.

Results:

* `Punct.ofChar?_char`: every punctuation mark is found by its character.
-/

namespace DataBinding

/-- A word that stands for a value. -/
inductive Atom where
  | true
  | false
  | null
  deriving DecidableEq, Repr

namespace Atom

/-- The word. -/
def word : Atom → String
  | true => "true"
  | false => "false"
  | null => "null"

/-- The atom of a word. -/
def ofWord? (w : String) : Option Atom := [true, false, null].find? fun a => a.word == w

end Atom

/-- A punctuation mark. -/
inductive Punct where
  | openParen
  | closeParen
  | openBracket
  | closeBracket
  | openBrace
  | closeBrace
  | comma
  | colon
  | dot
  | semicolon
  deriving DecidableEq, Repr

namespace Punct

/-- The character of the mark. -/
def char : Punct → Char
  | openParen => '('
  | closeParen => ')'
  | openBracket => '['
  | closeBracket => ']'
  | openBrace => '\x7b'
  | closeBrace => '\x7d'
  | comma => ','
  | colon => ':'
  | dot => '.'
  | semicolon => ';'

/-- All marks. -/
def all : List Punct :=
  [openParen, closeParen, openBracket, closeBracket, openBrace, closeBrace, comma, colon, dot,
    semicolon]

/-- The mark of a character. -/
def ofChar? (c : Char) : Option Punct := all.find? fun p => p.char == c

/-- Can a value follow the mark? -/
def expectsValue : Punct → Bool
  | closeParen | closeBracket | closeBrace => false
  | _ => true

/-- The mark in single quotes. -/
def quoted (p : Punct) : String := "'" ++ p.char.toString ++ "'"

/-- Every mark is found by its character. -/
theorem ofChar?_char (p : Punct) : ofChar? p.char = some p := by cases p <;> decide

end Punct

/-- What a token is. -/
inductive TokenKind where
  /-- The end of the input -/
  | eof
  | operator (op : Operator)
  | punct (p : Punct)
  /-- A quoted string, by its value -/
  | string (s : String)
  | number (x : Float)
  | name (s : String)
  | atom (a : Atom)
  | regex (pattern flags : String)
  /-- The mark between the parameters and the body of an arrow function -/
  | arrow

namespace TokenKind

/-- How a report names the token. -/
def describe : TokenKind → String
  | eof => "end of input"
  | operator op => "operator '" ++ op.spelling ++ "'"
  | punct p => p.quoted
  | string s => "string " ++ Text.visible s
  | number x => "number " ++ Decimal.sourceText x
  | name s => "identifier '" ++ s ++ "'"
  | atom a => "'" ++ a.word ++ "'"
  | regex pattern flags => "regex /" ++ pattern ++ "/" ++ flags
  | arrow => "'=>'"

/-- Is the token this punctuation mark? -/
def isPunct (k : TokenKind) (p : Punct) : Bool :=
  match k with
  | punct q => q == p
  | _ => false

/-- Is the token this operator? -/
def isOperator (k : TokenKind) (op : Operator) : Bool :=
  match k with
  | operator o => o == op
  | _ => false

/-- Is the token the end of the input? -/
def isEof : TokenKind → Bool
  | eof => true
  | _ => false

/-- Is the token the mark of arrow functions? -/
def isArrow : TokenKind → Bool
  | arrow => true
  | _ => false

/-- Can a value follow the token? Where one can, a slash opens a regular expression; elsewhere it
    divides. -/
def expectsValue : TokenKind → Bool
  | operator _ | arrow => true
  | punct p => p.expectsValue
  | _ => false

end TokenKind

/-- A token, its text and the position of its text. -/
structure Token where
  kind : TokenKind
  raw : String
  position : Nat

end DataBinding
