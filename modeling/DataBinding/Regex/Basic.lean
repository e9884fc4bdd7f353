import DataBinding.Unicode.CaseMap
import DataBinding.Unicode.Known

/-!
# Regular expressions

A pattern is built from sets of characters and conditions on a place by sequence, alternatives,
repetition and groups. Of the ways to match at a place the first one counts: alternatives are tried in
order, and a repetition tries one more turn first if it is greedy, and last if not.

Results:

* `Look.holds_textStart_iff`, `Look.holds_textEnd_iff`: the ends of a text are the places without a
  character before or after.
-/

namespace DataBinding.Regex

open Unicode (CodeSet)

/-- What a condition on words asks of a place. -/
inductive Boundary where
  /-- A word starts or ends. -/
  | edge
  /-- No word starts or ends. -/
  | inside
  | start
  | stop
  /-- No word character stands before. -/
  | startHalf
  /-- No word character stands after. -/
  | stopHalf
  deriving DecidableEq, Repr

/-- A condition on a place in a text. -/
inductive Look where
  | textStart
  | textEnd
  /-- A line starts. With `crlf`, a carriage return ends a line too. -/
  | lineStart (crlf : Bool)
  /-- A line ends. With `crlf`, a carriage return ends a line too. -/
  | lineEnd (crlf : Bool)
  /-- With `unicode`, words hold word characters of all scripts. -/
  | word (b : Boundary) (unicode : Bool)
  deriving DecidableEq, Repr

/-- The word characters of ASCII. -/
def asciiWord : CodeSet := ⟨[(0x30, 0x39), (0x41, 0x5A), (0x5F, 0x5F), (0x61, 0x7A)]⟩

/-- Is the character one of words? -/
def isWordChar (unicode : Bool) (c : Char) : Bool :=
  if unicode then Unicode.Known.wordCharacters.holds c else asciiWord.holds c

/-- Does a place satisfy the condition, where `before` and `after` tell whether word characters stand
    on its sides? -/
def Boundary.holds (before after : Bool) : Boundary → Bool
  | edge => before != after
  | inside => before == after
  | start => !before && after
  | stop => before && !after
  | startHalf => !before
  | stopHalf => !after

/-- Does a place between these two characters satisfy the condition? -/
def Look.holds (before after : Option Char) : Look → Bool
  | textStart => before.isNone
  | textEnd => after.isNone
  | lineStart false => before.all (· == '\n')
  | lineStart true => before.all fun c => c == '\n' || (c == '\r' && after != some '\n')
  | lineEnd false => after.all (· == '\n')
  | lineEnd true => after.all fun c => c == '\r' || (c == '\n' && before != some '\r')
  | word b unicode => b.holds (before.any (isWordChar unicode)) (after.any (isWordChar unicode))

/-- The start of a text is the place without a character before. -/
theorem Look.holds_textStart_iff (before after : Option Char) :
    Look.textStart.holds before after = true ↔ before = none := by
  simp [Look.holds]

/-- The end of a text is the place without a character after. -/
theorem Look.holds_textEnd_iff (before after : Option Char) :
    Look.textEnd.holds before after = true ↔ after = none := by
  simp [Look.holds]

/-- A pattern. -/
inductive Pattern where
  | empty
  /-- These characters, one after the other -/
  | literal (cs : List Char)
  /-- One character of a set, which was written with or without Unicode classes -/
  | chars (s : CodeSet) (unicode : Bool)
  | look (l : Look)
  /-- A group, numbered if what it matches is noted -/
  | group (index : Option Nat) (p : Pattern)
  | seq (ps : List Pattern)
  | either (ps : List Pattern)
  /-- At least `least` and at most `most` turns -/
  | turns (p : Pattern) (least : Nat) (most : Option Nat) (greedy : Bool)

namespace Pattern

/-- The sequence of some patterns. -/
def ofSeq : List Pattern → Pattern
  | [] => empty
  | [p] => p
  | ps => seq ps

/-- The alternatives of some patterns. -/
def ofEither : List Pattern → Pattern
  | [p] => p
  | ps => either ps

/-! ## The length of a match -/

mutual

/-- Does every match take at least one character? -/
def takes : Pattern → Bool
  | empty | look _ => false
  | literal cs => !cs.isEmpty
  | chars _ _ => true
  | group _ p => takes p
  | seq ps => takesSome ps
  | either ps => takesAll ps
  | turns p least _ _ => decide (0 < least) && takes p

/-- Does some pattern of the list take a character? -/
def takesSome : List Pattern → Bool
  | [] => false
  | p :: rest => takes p || takesSome rest

/-- Does every pattern of the list take a character? -/
def takesAll : List Pattern → Bool
  | [] => true
  | p :: rest => takes p && takesAll rest

end

mutual

/-- Does no match take a character? A set counts as one character even if it has no members. -/
def takesNone : Pattern → Bool
  | empty | look _ => true
  | literal cs => cs.isEmpty
  | chars _ _ => false
  | group _ p => takesNone p
  | seq ps | either ps => allTakeNone ps
  | turns p _ most _ => decide (most = some 0) || takesNone p

/-- Does no match of any pattern of the list take a character? -/
def allTakeNone : List Pattern → Bool
  | [] => true
  | p :: rest => takesNone p && allTakeNone rest

end

/-! ## How deep patterns nest -/

mutual

/-- How deep the pattern nests. -/
def depth : Pattern → Nat
  | empty | look _ | literal _ | chars _ _ => 0
  | group _ p => depth p + 1
  | seq ps | either ps => depthAll ps + 1
  | turns p _ _ _ => depth p + 1

/-- How deep the patterns of a list nest. -/
def depthAll : List Pattern → Nat
  | [] => 0
  | p :: rest => max (depth p) (depthAll rest)

end

/-- The depth up to which patterns may nest. -/
def maxDepth : Nat := 250

end Pattern

end DataBinding.Regex
