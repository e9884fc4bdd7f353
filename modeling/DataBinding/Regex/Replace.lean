import DataBinding.Regex.Parse
import DataBinding.Regex.Search

/-!
# Testing, splitting and replacing

A regular expression is kept with the text it was written as. The flags `i`, `m` and `s` are those of
its pattern; the others do not change what it matches.

Results:

* `expand_nil`: the empty template expands to the empty text.
* `splitAround_nil`: a text without matches is its only part.
-/

namespace DataBinding

/-- A regular expression. -/
structure Regex where
  source : String
  flags : String
  machine : Array Regex.Step
  names : List (String × Nat)

namespace Regex

/-- The text of a pattern under the flags it is written with. -/
def patternText (source flags : String) : List Char :=
  let letters := flags.toList.filter fun c => c == 'i' || c == 'm' || c == 's'
  if letters.isEmpty then source.toList
  else '(' :: '?' :: (letters ++ ')' :: source.toList)

/-- The regular expression of a source and flags. -/
def ofSource? (source flags : String) : Option Regex :=
  (parse? (patternText source flags)).map fun (p, names) => ⟨source, flags, p.machine, names⟩

/-- Are all matches meant, and not only the first? -/
def isGlobal (re : Regex) : Bool := re.flags.toList.contains 'g'

/-- Is there a match in the text? -/
def isMatch (re : Regex) (text : List Char) : Bool := (find? re.machine (.start text)).isSome

/-- All matches in the text, none of which overlap. -/
def matchesOf (re : Regex) (text : List Char) : List Match :=
  matchesFrom re.machine (.start text) false

/-! ## Splitting -/

/-- The parts of a text from `last` on around some matches. -/
def splitAround (text : List Char) (last : Nat) : List Match → List (List Char)
  | [] => [text.drop last]
  | r :: rest => Text.slice last r.start text :: splitAround text r.stop rest

/-- A text without matches is its only part. -/
theorem splitAround_nil (text : List Char) : splitAround text 0 [] = [text] := rfl

/-- The parts of a text around all matches. -/
def split (re : Regex) (text : List Char) : List (List Char) :=
  splitAround text 0 (re.matchesOf text)

/-! ## Templates of replacements -/

/-- The largest number that can name a group. -/
def maxGroup : Nat := 0xFFFFFFFFFFFFFFFF

/-- The group that a reference in a template names: by number or by name. -/
def groupNumber? (re : Regex) (name : List Char) : Option Nat :=
  let digits := match name with
    | '+' :: rest => rest
    | _ => name
  if digits.isEmpty || !digits.all Char.isDigit || maxGroup < Decimal.natOfDigits digits then
    re.names.lookup (String.ofList name)
  else some (Decimal.natOfDigits digits)

/-- The text that a group of a match holds; none if the group took no part. -/
def groupText (text : List Char) (r : Match) (i : Nat) : List Char :=
  match r.group? i with
  | some (start, stop) => Text.slice start stop text
  | none => []

/-- The text that a reference stands for. -/
def referenceText (re : Regex) (text : List Char) (r : Match) (name : List Char) : List Char :=
  ((re.groupNumber? name).map (groupText text r)).getD []

/-- Can the character stand in a reference without braces? -/
def isReferenceChar (c : Char) : Bool := c.isAlphanum || c == '_'

/-- The template with its references replaced. After a dollar sign stands the longest possible name,
    or a name in braces; two dollar signs stand for one, and any other stands for itself. -/
def expand (re : Regex) (text : List Char) (r : Match) (template : List Char) : List Char :=
  match template with
  | [] => []
  | '$' :: rest =>
    match rest with
    | '$' :: more => '$' :: expand re text r more
    | '\x7b' :: more =>
      match _h : cutAtChar? (· == '\x7d') more with
      | some (name, _, ⟨after, _hlt⟩) => referenceText re text r name ++ expand re text r after
      | none => '$' :: expand re text r ('\x7b' :: more)
    | rest =>
      if (rest.takeWhile isReferenceChar).isEmpty then '$' :: expand re text r rest
      else
        referenceText re text r (rest.takeWhile isReferenceChar) ++
          expand re text r (rest.dropWhile isReferenceChar)
  | c :: rest => c :: expand re text r rest
termination_by template.length
decreasing_by
  all_goals simp only [List.length_cons]
  all_goals try omega
  have := (List.dropWhile_suffix (l := rest) isReferenceChar).length_le
  omega

/-- The empty template expands to the empty text. -/
theorem expand_nil (re : Regex) (text : List Char) (r : Match) : expand re text r [] = [] := by
  rw [expand]

end Regex

end DataBinding
