import DataBinding.Regex.Basic
import DataBinding.Regex.Property
import DataBinding.Decimal.Reader

/-!
# Single characters and escapes of patterns

What a pattern writes for one character, a class or a condition. The reading depends on `Flags`, which
groups set. In verbose mode blanks and comments between the parts of a pattern do not count.

Results:

* `skipBlank_length`: skipping blanks does not make a text longer.
-/

namespace DataBinding.Regex

open Unicode (CodeSet)

/-- How a pattern is read. -/
structure Flags where
  ignoreCase : Bool
  multiLine : Bool
  /-- The point matches line ends too. -/
  dotAll : Bool
  /-- Repetitions are lazy unless marked. -/
  swapGreed : Bool
  /-- Classes and words hold characters of all scripts. -/
  unicode : Bool
  /-- A carriage return ends a line too. -/
  crlf : Bool
  verbose : Bool
  deriving DecidableEq, Repr

/-- The flags at the start of a pattern. -/
def Flags.start : Flags := ⟨false, false, false, false, true, false, false⟩

/-- What follows in a text that is not made longer. -/
abbrev Later (cs : List Char) := { rest : List Char // rest.length ≤ cs.length }

/-- What follows in a text of which at least one character is taken. -/
abbrev After (cs : List Char) := { rest : List Char // rest.length < cs.length }

/-- The whole text. -/
def Later.all (cs : List Char) : Later cs := ⟨cs, Nat.le_refl _⟩

/-- What follows, where at least one character is taken. -/
def After.later {cs : List Char} (r : After cs) : Later cs := ⟨r.1, Nat.le_of_lt r.2⟩

/-- What follows, in a longer text. -/
def Later.cons {cs : List Char} (r : Later cs) (c : Char) : After (c :: cs) :=
  ⟨r.1, by have := r.2; simp only [List.length_cons]; omega⟩

/-! ## Blanks -/

/-- A text after a comment, which ends with its line. -/
def skipComment (cs : List Char) : List Char := (cs.dropWhile (· != '\n')).drop 1

theorem skipComment_length (cs : List Char) : (skipComment cs).length ≤ cs.length := by
  have := (List.dropWhile_suffix (l := cs) (· != '\n')).length_le
  simp only [skipComment, List.length_drop]
  omega

/-- A text after the blanks and comments at its start. -/
def skipBlanks (cs : List Char) : List Char :=
  match cs with
  | [] => []
  | c :: rest =>
    if Unicode.isWhitespace c then skipBlanks rest
    else if c = '#' then skipBlanks (skipComment rest)
    else c :: rest
termination_by cs.length
decreasing_by
  · simp
  · have := skipComment_length rest
    simp only [List.length_cons]
    omega

/-- A text after the blanks at its start that do not count. -/
def skipBlank (f : Flags) (cs : List Char) : List Char := if f.verbose then skipBlanks cs else cs

theorem skipBlanks_length (cs : List Char) : (skipBlanks cs).length ≤ cs.length := by
  fun_induction skipBlanks cs with
  | case1 => simp
  | case2 c rest _ ih =>
    simp only [List.length_cons]
    omega
  | case3 rest _ ih =>
    have := skipComment_length rest
    simp only [List.length_cons]
    omega
  | case4 => simp

/-- Skipping blanks does not make a text longer. -/
theorem skipBlank_length (f : Flags) (cs : List Char) : (skipBlank f cs).length ≤ cs.length := by
  unfold skipBlank
  split
  · exact skipBlanks_length cs
  · exact Nat.le_refl _

/-- The next character that is not skipped, and what follows it. -/
def nextChar? (f : Flags) (cs : List Char) : Option (Char × After cs) :=
  match skipBlank f cs, skipBlank_length f cs with
  | [], _ => none
  | c :: rest, lt => some (c, ⟨rest, lt⟩)

/-! ## Sets under flags -/

/-- The characters outside a set: outside ASCII and the codes of one byte where classes are not
    Unicode classes. -/
def Flags.outside (f : Flags) (s : CodeSet) : CodeSet :=
  if f.unicode then s.complement else s.complement.inter ⟨[(0, 0xFF)]⟩

/-- The letters of ASCII that differ from a member only by case, and the members. -/
def asciiCaseClosure (s : CodeSet) : CodeSet :=
  let flip := (List.range 26).flatMap fun i =>
    (if s.contains (0x41 + i) then [(0x61 + i, 0x61 + i)] else []) ++
      (if s.contains (0x61 + i) then [(0x41 + i, 0x41 + i)] else [])
  s.union (.ofRanges flip)

/-- The set, with what differs only by case if case does not count. -/
def Flags.folded (f : Flags) (s : CodeSet) : CodeSet :=
  if f.ignoreCase then if f.unicode then s.caseClosure else asciiCaseClosure s else s

/-- Is every member in ASCII, where classes are not Unicode classes? -/
def Flags.permits (f : Flags) (s : CodeSet) : Bool :=
  f.unicode || s.ranges.all fun r => r.2 < 0x80

/-- The set of one character. Without Unicode classes it must be in ASCII. -/
def Flags.charSet? (f : Flags) (c : Char) : Option CodeSet :=
  let s := CodeSet.singleton c
  if f.permits s then some (f.folded s) else none

/-- The set of a class of one letter, or what is outside it. -/
def Flags.letterSet? (f : Flags) (l : LetterClass) (negated : Bool) : Option CodeSet :=
  let s := l.set f.unicode
  if !negated then some s else if f.unicode then some s.complement else none

/-- The set of a property, or what is outside it. -/
def Flags.propertyClass? (f : Flags) (s : CodeSet) (negated : Bool) : Option CodeSet :=
  if !f.unicode then none else some (if negated then (f.folded s).complement else f.folded s)

/-- The set that the point matches. -/
def Flags.dot? (f : Flags) : Option CodeSet :=
  if !f.unicode then none
  else if f.dotAll then some .all
  else if f.crlf then some (CodeSet.complement ⟨[(0x0A, 0x0A), (0x0D, 0x0D)]⟩)
  else some (CodeSet.complement ⟨[(0x0A, 0x0A)]⟩)

/-! ## Escapes -/

/-- What an escape stands for. -/
inductive Escape where
  | char (c : Char)
  | set (s : CodeSet)
  | look (l : Look)

/-- The character of a code point. -/
def charOfCode? (n : Nat) : Option Char :=
  if h : n.isValidChar then some (Char.ofNatAux n h) else none

/-- Exactly `count` hexadecimal digits, and what follows. -/
def readDigits? (f : Flags) : (count n : Nat) → (cs : List Char) → Option (Nat × Later cs)
  | 0, n, cs => some (n, Later.all cs)
  | count + 1, n, cs =>
    match h : skipBlank f cs with
    | [] => none
    | c :: rest =>
      match Decimal.digitValue? 16 c with
      | none => none
      | some d =>
        (readDigits? f count (16 * n + d) rest).map fun (n, r) =>
          (n, ⟨r.1, by
            have := skipBlank_length f cs
            have := r.2
            simp only [h, List.length_cons] at *
            omega⟩)

/-- Hexadecimal digits up to a closing brace, and what follows it. -/
def readBraced? (f : Flags) (digits : List Nat) (cs : List Char) : Option (List Nat × Later cs) :=
  match _h : skipBlank f cs with
  | [] => none
  | '\x7d' :: rest =>
    some (digits, ⟨rest, by
      have := skipBlank_length f cs
      simp only [_h, List.length_cons] at this
      omega⟩)
  | c :: rest =>
    match Decimal.digitValue? 16 c with
    | none => none
    | some d =>
      (readBraced? f (digits ++ [d]) rest).map fun (ds, r) =>
        (ds, ⟨r.1, by
          have := skipBlank_length f cs
          have := r.2
          simp only [_h, List.length_cons] at *
          omega⟩)
termination_by cs.length
decreasing_by
  have := skipBlank_length f cs
  simp only [_h, List.length_cons] at *
  omega

/-- The code point of an escape by hexadecimal digits: in braces, or exactly `count` of them. -/
def readCode? (f : Flags) (count : Nat) (cs : List Char) : Option (Char × Later cs) :=
  match h : skipBlank f cs with
  | '\x7b' :: rest =>
    match readBraced? f [] rest with
    | none => none
    | some (ds, r) =>
      if ds.isEmpty then none
      else (charOfCode? (ds.foldl (fun n d => 16 * n + d) 0)).map fun c =>
        (c, ⟨r.1, by
          have := skipBlank_length f cs
          have := r.2
          simp only [h, List.length_cons] at *
          omega⟩)
  | _ =>
    match readDigits? f count 0 cs with
    | none => none
    | some (n, r) => (charOfCode? n).map fun c => (c, r)

/-- The name of a property up to its closing brace, and what follows it. Blanks in verbose mode are
    skipped before every character. -/
def readPropertyName? (f : Flags) (name : List Char) (cs : List Char) :
    Option (List Char × Later cs) :=
  match _h : skipBlank f cs with
  | [] => none
  | '\x7d' :: rest =>
    some (name, ⟨rest, by
      have := skipBlank_length f cs
      simp only [_h, List.length_cons] at this
      omega⟩)
  | c :: rest =>
    (readPropertyName? f (name ++ [c]) rest).map fun (name, r) =>
      (name, ⟨r.1, by
        have := skipBlank_length f cs
        have := r.2
        simp only [_h, List.length_cons] at *
        omega⟩)
termination_by cs.length
decreasing_by
  have := skipBlank_length f cs
  simp only [_h, List.length_cons] at *
  omega

/-- The text around the first place of a mark. -/
def cutAtMark? (mark : List Char) : List Char → Option (List Char × List Char)
  | [] => none
  | c :: rest =>
    if mark.isPrefixOf (c :: rest) then some ([], (c :: rest).drop mark.length)
    else (cutAtMark? mark rest).map fun (name, value) => (c :: name, value)

/-- The set of the text of a property in braces, and whether what is outside it is meant: a value
    after `!=` is the one that characters must not have. -/
def bracedProperty? (text : List Char) : Option (CodeSet × Bool) :=
  match cutAtMark? ['!', '='] text with
  | some (name, value) => (propertyValueSet? name value).map fun s => (s, true)
  | none =>
    ((match (cutAtMark? [':'] text).or (cutAtMark? ['='] text) with
      | some (name, value) => propertyValueSet? name value
      | none => propertySet? text)).map fun s => (s, false)

/-- A property: one letter, or a name in braces. -/
def readProperty? (f : Flags) (negated : Bool) (cs : List Char) : Option (Escape × Later cs) :=
  match h : skipBlank f cs with
  | [] => none
  | '\x7b' :: rest =>
    match readPropertyName? f [] rest with
    | none => none
    | some (name, r) =>
      ((bracedProperty? name).bind fun (s, unequal) =>
          f.propertyClass? s (negated != unequal)).map fun s =>
        (.set s, ⟨r.1, by
          have := skipBlank_length f cs
          have := r.2
          simp only [h, List.length_cons] at *
          omega⟩)
  | c :: rest =>
    ((propertySet? [c]).bind fun s => f.propertyClass? s negated).map fun s =>
      (.set s, ⟨rest, by
        have := skipBlank_length f cs
        simp only [h, List.length_cons] at this
        omega⟩)

/-- The character of an escape of one letter. -/
def controlEscape? (c : Char) : Option Char :=
  [('a', '\x07'), ('f', '\x0c'), ('t', '\t'), ('n', '\n'), ('r', '\r'), ('v', '\x0b')].lookup c

/-- The condition of an escape of one letter. -/
def lookEscape? (f : Flags) (c : Char) : Option Look :=
  [('A', Look.textStart), ('z', .textEnd), ('b', .word .edge f.unicode),
    ('B', .word .inside f.unicode), ('<', .word .start f.unicode),
    ('>', .word .stop f.unicode)].lookup c

/-- Does the character stand for itself after a backslash? All of ASCII does but letters, digits and
    angle brackets. -/
def isEscapable (c : Char) : Bool :=
  decide (c.toNat < 0x80) && !c.isAlphanum && c != '<' && c != '>'

/-- A character that the name of a boundary may hold. -/
def isBoundaryChar (c : Char) : Bool := c.isAlpha || c == '-'

/-- The characters of the name of a boundary, and what follows. -/
def readBoundaryName (f : Flags) (name : List Char) (cs : List Char) : List Char × Later cs :=
  match _h : skipBlank f cs with
  | [] => (name, ⟨[], Nat.zero_le _⟩)
  | c :: rest =>
    if isBoundaryChar c then
      let (name, r) := readBoundaryName f (name ++ [c]) rest
      (name, ⟨r.1, by
        have := skipBlank_length f cs
        have := r.2
        simp only [_h, List.length_cons] at *
        omega⟩)
    else (name, ⟨c :: rest, by
      have := skipBlank_length f cs
      simp only [_h, List.length_cons] at *
      omega⟩)
termination_by cs.length
decreasing_by
  have := skipBlank_length f cs
  simp only [_h, List.length_cons] at *
  omega

/-- The boundary of a name. -/
def boundaryOfName? (name : List Char) : Option Boundary :=
  [("start", Boundary.start), ("end", .stop), ("start-half", .startHalf),
    ("end-half", .stopHalf)].lookup (String.ofList name)

/-- The condition after `\b`: a boundary by name in braces, or any edge of a word. Braces that do not
    start with a letter are left to be read as a count. -/
def readBoundary? (f : Flags) (cs : List Char) : Option (Look × Later cs) :=
  match cs with
  | '\x7b' :: rest =>
    match skipBlank f rest with
    | [] => none
    | c :: _ =>
      if isBoundaryChar c then
        match readBoundaryName f [] rest with
        | (name, ⟨'\x7d' :: more, h⟩) =>
          (boundaryOfName? name).map fun b =>
            (.word b f.unicode, ⟨more, by simp only [List.length_cons] at *; omega⟩)
        | _ => none
      else some (.word .edge f.unicode, Later.all ('\x7b' :: rest))
  | cs => some (.word .edge f.unicode, Later.all cs)

/-- The escape whose backslash stands before `cs`, and what follows it. -/
def readEscape? (f : Flags) (cs : List Char) : Option (Escape × After cs) :=
  match cs with
  | [] => none
  | c :: rest =>
    let here : After (c :: rest) := ⟨rest, Nat.lt_succ_self _⟩
    if c = 'x' then (readCode? f 2 rest).map fun (d, r) => (.char d, r.cons c)
    else if c = 'u' then (readCode? f 4 rest).map fun (d, r) => (.char d, r.cons c)
    else if c = 'U' then (readCode? f 8 rest).map fun (d, r) => (.char d, r.cons c)
    else if c = 'p' ∨ c = 'P' then
      (readProperty? f (c == 'P') rest).map fun (e, r) => (e, r.cons c)
    else if let some l := LetterClass.ofChar? c.toLower then
      (f.letterSet? l c.isUpper).map fun s => (.set s, here)
    else if c = 'b' then (readBoundary? f rest).map fun (l, r) => (.look l, r.cons c)
    else if isEscapable c then some (.char c, here)
    else if let some d := controlEscape? c then some (.char d, here)
    else (lookEscape? f c).map fun l => (.look l, here)

end DataBinding.Regex
