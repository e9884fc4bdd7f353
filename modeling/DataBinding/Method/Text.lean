import DataBinding.Method.Basic
import DataBinding.Text.Search
import DataBinding.Unicode.CaseMap

/-!
# Methods of strings

Positions and lengths count characters. A pattern to split at or to replace is a regular expression or
a text; a replacement is a function of the matched text, or a text.

Results:

* `splitAt_empty`: an empty separator splits a text into its characters.
* `replaceFirst_of_not_found`: what does not occur is not replaced.
-/

namespace DataBinding

/-- A method of strings. -/
inductive TextMethod where
  | toUpper
  | toLower
  | trim
  | includes
  | startsWith
  | endsWith
  | indexOf
  | slice
  | split
  | replace
  | concat
  deriving DecidableEq, Repr

namespace TextMethod

/-- All methods. -/
def all : List TextMethod :=
  [toUpper, toLower, trim, includes, startsWith, endsWith, indexOf, slice, split, replace, concat]

/-- The name of the method. -/
def name : TextMethod → String
  | toUpper => "toUpperCase"
  | toLower => "toLowerCase"
  | trim => "trim"
  | includes => "includes"
  | startsWith => "startsWith"
  | endsWith => "endsWith"
  | indexOf => "indexOf"
  | slice => "slice"
  | split => "split"
  | replace => "replace"
  | concat => "concat"

/-- The method of a name. -/
def ofName? (name : String) : Option TextMethod := all.find? fun m => m.name == name

end TextMethod

/-- A string value of characters. -/
def Value.ofChars (cs : List Char) : Value := .string (String.ofList cs)

/-! ## Splitting -/

/-- The parts of a text between the places of a separator. An empty one separates all characters. -/
def splitAt (separator text : List Char) : List (List Char) :=
  if h : separator = [] then text.map fun c => [c] else Text.splitOn separator h text

/-- An empty separator splits a text into its characters. -/
theorem splitAt_empty (text : List Char) : splitAt [] text = text.map fun c => [c] := rfl

/-- The parts of a text around a separator; undefined separates nothing. -/
def splitBy (separator : Value) (text : List Char) : List (List Char) :=
  match separator with
  | .undefined => [text]
  | .regex _ re => re.split text
  | other => splitAt other.toText.toList text

/-! ## Replacing -/

/-- What stands in the place of a matched text: the answer of a function, or a text, where `expand`
    says what a text stands for. -/
def replacementText (call : Caller) (replacement : Value) (expand : List Char → List Char)
    (found : List Char) : Eval (List Char) := do
  match replacement with
  | .function _ f =>
    let answer ← call f .undefined [.ofChars found]
    return answer.toText.toList
  | other => return expand other.toText.toList

/-- The text from `last` on with some matches replaced. -/
def replaceMatches (call : Caller) (replacement : Value) (re : Regex) (text : List Char)
    (last : Nat) : List Regex.Match → Eval (List Char)
  | [] => return text.drop last
  | r :: rest => do
    let new ← replacementText call replacement (re.expand text r) (Text.slice r.start r.stop text)
    let tail ← replaceMatches call replacement re text r.stop rest
    return Text.slice last r.start text ++ new ++ tail

/-- The text with the first place of a pattern replaced. -/
def replaceFirst (call : Caller) (replacement : Value) (pattern text : List Char) :
    Eval (List Char) := do
  match Text.cutAt? pattern text with
  | some (before, rest) =>
    let new ← replacementText call replacement id pattern
    return before ++ new ++ rest
  | none => return text

/-- What does not occur is not replaced. -/
theorem replaceFirst_of_not_found (call : Caller) (replacement : Value) {pattern text : List Char}
    (h : Text.cutAt? pattern text = none) :
    replaceFirst call replacement pattern text = pure text := by
  simp [replaceFirst, h]

/-- The text with the places of a pattern replaced: all of them for a global regular expression, the
    first one else. -/
def replaceIn (call : Caller) (pattern replacement : Value) (text : List Char) : Eval (List Char) :=
  match pattern with
  | .regex _ re =>
    let found := re.matchesOf text
    replaceMatches call replacement re text 0 (if re.isGlobal then found else found.take 1)
  | other => replaceFirst call replacement other.toText.toList text

/-! ## Calls -/

/-- Calls a method of a string. -/
def TextMethod.call (call : Caller) (m : TextMethod) (s : String) (args : List Value) : Eval Value := do
  let text := s.toList
  let first := (argumentText args 0).toList
  match m with
  | toUpper => return .ofChars (Unicode.upper text)
  | toLower => return .ofChars (Unicode.lower text)
  | trim => return .ofChars (Text.trim Unicode.isWhitespace text)
  | includes => return .boolean (Text.indexOf? first text).isSome
  | startsWith => return .boolean (Text.startsWith first text)
  | endsWith => return .boolean (Text.endsWith first text)
  | indexOf => return ofPosition? (Text.indexOf? first text)
  | slice => return .ofChars (DataBinding.slice text (argument args 0) (argument args 1))
  | split => Eval.ofFresh (Fresh.array ((splitBy (argument args 0) text).map .ofChars))
  | replace =>
    let replaced ← replaceIn call (argument args 0) (argument args 1) text
    return .ofChars replaced
  | concat => return .string (s ++ String.join (args.map Value.toText))

end DataBinding
