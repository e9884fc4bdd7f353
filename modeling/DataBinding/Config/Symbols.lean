import DataBinding.Config.Basic

/-!
# Recognizing symbols

A name in a source stands for a symbol when it is a dollar sign and the name of the symbol, or, for a
leveled symbol, these and digits. The whole name is tried first, then every name that leaves digits,
the longest first.

Results:

* `Config.recognize?_of_ne_dollar`: a text without a dollar sign at its start is recognized as no
  symbol.
-/

namespace DataBinding

/-- The symbol that a name in a source stands for. -/
structure Recognized where
  name : String
  /-- The digits after the name. -/
  level : Option String
  direct : Bool
  deriving DecidableEq, Repr

namespace Config

/-- The symbol called so. Of several the last one counts. -/
def find? (c : Config) (name : String) : Option SymbolSpec :=
  c.symbols.reverse.find? fun s => s.name == name

/-- The number of digits at the end of a text. -/
def trailingDigits (cs : List Char) : Nat := (cs.reverse.takeWhile Char.isDigit).length

/-- The leveled symbol that a text without its dollar sign stands for, where the level is the part of
    the text from `i` on. -/
def recognizeLevelAt? (c : Config) (cs : List Char) (i : Nat) : Option Recognized :=
  match c.find? (String.ofList (cs.take i)) with
  | some s => if s.leveled then some ⟨s.name, some (String.ofList (cs.drop i)), s.direct⟩ else none
  | none => none

/-- The leveled symbol with the longest name that a text without its dollar sign stands for. -/
def recognizeLevel? (c : Config) (cs : List Char) : Option Recognized :=
  (List.range (trailingDigits cs)).findSome? fun k => c.recognizeLevelAt? cs (cs.length - 1 - k)

/-- The symbol that a name in a source stands for. -/
def recognize? (c : Config) (raw : String) : Option Recognized :=
  match raw.toList with
  | '$' :: cs =>
    match c.find? (String.ofList cs) with
    | some s => some ⟨s.name, none, s.direct⟩
    | none => c.recognizeLevel? cs
  | _ => none

/-- Does the name stand for a symbol? -/
def isRecognized (c : Config) (raw : String) : Bool := (c.recognize? raw).isSome

/-- A text without a dollar sign at its start is recognized as no symbol. -/
theorem recognize?_of_ne_dollar (c : Config) {raw : String} (h : raw.toList.head? ≠ some '$') :
    c.recognize? raw = none := by
  unfold recognize?
  split
  · rename_i hr
    simp [hr] at h
  · rfl

end Config

end DataBinding
