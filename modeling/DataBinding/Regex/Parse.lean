import DataBinding.Regex.Bracket
import DataBinding.Regex.Footprint
import DataBinding.Regex.Normal

/-!
# From texts to patterns

Groups are numbered by their opening parentheses. Flags that stand alone in parentheses hold up to the
end of the group around them, also in the alternatives that follow. Conditions on what surrounds a
match beyond single characters, and references to groups, have no patterns.

Results:

* `parse?_empty`: the empty text is the pattern that matches nothing but the empty text.
-/

namespace DataBinding.Regex

open Unicode (CodeSet)

/-- What reading a pattern has found so far. -/
structure Reader where
  flags : Flags
  /-- The number of numbered groups. -/
  groups : Nat
  /-- The names of groups, with their numbers. -/
  names : List (String × Nat)

/-- The reader before a pattern. -/
def Reader.start : Reader := ⟨.start, 0, []⟩

/-! ## Flags -/

/-- Sets the flag of a letter. -/
def Flags.set? (f : Flags) (value : Bool) (c : Char) : Option Flags :=
  if c = 'i' then some { f with ignoreCase := value }
  else if c = 'm' then some { f with multiLine := value }
  else if c = 's' then some { f with dotAll := value }
  else if c = 'U' then some { f with swapGreed := value }
  else if c = 'u' then some { f with unicode := value }
  else if c = 'R' then some { f with crlf := value }
  else if c = 'x' then some { f with verbose := value }
  else none

/-- Sets the flags of different letters, in which one hyphen that is not the last one turns to
    clearing. -/
def Flags.update? (f : Flags) (value : Bool) (seen : List Char) : List Char → Option Flags
  | [] => if seen.getLast? = some '-' then none else some f
  | c :: rest =>
    if seen.contains c then none
    else if c = '-' then f.update? false (seen ++ [c]) rest
    else match f.set? value c with
      | some f => f.update? value (seen ++ [c]) rest
      | none => none

/-! ## Openings -/

/-- What an opening parenthesis opens. -/
inductive Opening where
  /-- Flags alone -/
  | flags (f : Flags)
  /-- A group, numbered or not, read under flags -/
  | group (index : Option Nat) (f : Flags)

/-- Can the character stand in the name of a group, as its first character or not? -/
def isGroupNameChar (first : Bool) (c : Char) : Bool :=
  if first then c == '_' || Unicode.isAlphabetic c
  else c == '_' || c == '.' || c == '[' || c == ']' || Unicode.isAlphanumeric c

/-- Is the text the name of a group? -/
def isGroupName : List Char → Bool
  | [] => false
  | c :: rest => isGroupNameChar true c && rest.all (isGroupNameChar false)

/-- The text up to a mark, and what follows the mark. -/
def cutAtChar? (p : Char → Bool) (cs : List Char) : Option (List Char × Char × After cs) :=
  match cs.dropWhile fun c => !p c, (List.dropWhile_suffix (l := cs) fun c => !p c).length_le with
  | [], _ => none
  | c :: rest, lt => some (cs.takeWhile fun c => !p c, c, ⟨rest, lt⟩)

/-- A group whose name starts at `cs`. -/
def openNamed? (st : Reader) (cs : List Char) : Option (Opening × Reader × After cs) :=
  match cutAtChar? (· == '>') cs with
  | none => none
  | some (name, _, r) =>
    let text := String.ofList name
    if isGroupName name && (st.names.lookup text).isNone then
      let n := st.groups + 1
      some (.group (some n) st.flags, ⟨st.flags, n, st.names ++ [(text, n)]⟩, r)
    else none

/-- What the parenthesis before `cs` opens, and what follows. -/
def openGroup? (st : Reader) (cs : List Char) : Option (Opening × Reader × Later cs) :=
  match h : skipBlank st.flags cs with
  | '?' :: rest =>
    have lt : rest.length < cs.length := by
      have := skipBlank_length st.flags cs
      simp only [h, List.length_cons] at this
      omega
    match rest with
    | 'P' :: '<' :: more =>
      (openNamed? st more).map fun (o, st, r) => (o, st, ⟨r.1, by
        have := r.2
        simp only [List.length_cons] at lt
        omega⟩)
    | '=' :: _ | '!' :: _ | '<' :: '=' :: _ | '<' :: '!' :: _ => none
    | '<' :: more =>
      (openNamed? st more).map fun (o, st, r) => (o, st, ⟨r.1, by
        have := r.2
        simp only [List.length_cons] at lt
        omega⟩)
    | rest =>
      match cutAtChar? (fun c => c == ':' || c == ')') rest with
      | none => none
      | some (letters, mark, r) =>
        match st.flags.update? true [] letters with
        | none => none
        | some f =>
          let later : Later cs := ⟨r.1, Nat.le_of_lt (Nat.lt_trans r.2 lt)⟩
          if mark = ':' then some (.group none f, st, later)
          else if letters.isEmpty then none
          else some (.flags f, st, later)
  | rest =>
    let n := st.groups + 1
    some (.group (some n) st.flags, ⟨st.flags, n, st.names⟩,
      ⟨rest, by have := skipBlank_length st.flags cs; rw [h] at this; exact this⟩)

/-! ## Counts -/

/-- The largest count. -/
def maxCount : Nat := 0xFFFFFFFF

/-- Digits, between which blanks do not count in verbose mode, and what follows. -/
def readCountDigits (f : Flags) (digits : List Char) (cs : List Char) : List Char × Later cs :=
  match _hc : cs with
  | [] => (digits, Later.all [])
  | c :: rest =>
    if c.isDigit then
      let (digits, r) := readCountDigits f (digits ++ [c]) (skipBlank f rest)
      (digits, ⟨r.1, by
        have := skipBlank_length f rest
        have := r.2
        simp only [List.length_cons]
        omega⟩)
    else (digits, Later.all (c :: rest))
termination_by cs.length
decreasing_by
  have := skipBlank_length f rest
  simp only [List.length_cons]
  omega

/-- A count with blanks around it, and what follows. -/
def readCount? (f : Flags) (cs : List Char) : Option (Nat × Later cs) :=
  let (digits, r) := readCountDigits f [] (cs.dropWhile Unicode.isWhitespace)
  let n := Decimal.natOfDigits digits
  if digits.isEmpty ∨ maxCount < n then none
  else some (n, ⟨skipBlank f (r.1.dropWhile Unicode.isWhitespace), by
    have h₁ := (List.dropWhile_suffix (l := cs) Unicode.isWhitespace).length_le
    have h₂ := (List.dropWhile_suffix (l := r.1) Unicode.isWhitespace).length_le
    have h₃ := skipBlank_length f (r.1.dropWhile Unicode.isWhitespace)
    have := r.2
    omega⟩)

/-- The counts up to the closing brace, and what follows it: one count, a least count, or both. -/
def readCounts? (f : Flags) (cs : List Char) : Option (Nat × Option Nat × Later cs) :=
  match readCount? f (skipBlank f cs) with
  | none => none
  | some (least, ⟨rest, h⟩) =>
    have h₀ := skipBlank_length f cs
    match rest with
    | '\x7d' :: more =>
      some (least, some least, ⟨more, by simp only [List.length_cons] at h; omega⟩)
    | ',' :: more =>
      match h₁ : skipBlank f more with
      | '\x7d' :: more' =>
        some (least, none, ⟨more', by
          have := skipBlank_length f more
          simp only [h₁, List.length_cons] at *
          omega⟩)
      | more' =>
        match readCount? f more' with
        | some (most, ⟨'\x7d' :: last, h₂⟩) =>
          if least ≤ most then some (least, some most, ⟨last, by
            have := skipBlank_length f more
            simp only [h₁, List.length_cons] at *
            omega⟩)
          else none
        | _ => none
    | _ => none

/-- The question mark that makes a repetition lazy, and what follows. -/
def readLazy (cs : List Char) : Bool × Later cs :=
  match cs with
  | '?' :: rest => (true, ⟨rest, by simp⟩)
  | cs => (false, Later.all cs)

/-! ## Patterns -/

/-- The last item repeated. Flags that stand alone, and nothing, cannot be. -/
def repeatLast? (f : Flags) (items : List Pattern) (least : Nat) (most : Option Nat) (isLazy : Bool) :
    Option (List Pattern) :=
  match items.getLast? with
  | none | some .empty => none
  | some p => some (items.dropLast ++ [.turns p least most (isLazy == f.swapGreed)])

/-- The condition of a caret. -/
def Flags.caret (f : Flags) : Look := if f.multiLine then .lineStart f.crlf else .textStart

/-- The condition of a dollar sign. -/
def Flags.dollar (f : Flags) : Look := if f.multiLine then .lineEnd f.crlf else .textEnd

/-- The pattern of a set. -/
def Flags.chars (f : Flags) (s : CodeSet) : Pattern := .chars s f.unicode

/-- A pattern inside as many groups without numbers. -/
def enclosed : Nat → Pattern → Pattern
  | 0, p => p
  | depth + 1, p => .group none (enclosed depth p)

/-- The pattern of an escape. -/
def Escape.pattern? (f : Flags) : Escape → Option Pattern
  | .char c => (f.charSet? c).map f.chars
  | .set s => some (f.chars s)
  | .look l => some (.look l)

/-- The pattern of a character that opens nothing. -/
def plainPattern? (f : Flags) (c : Char) : Option Pattern :=
  if c = '.' then f.dot?.map f.chars
  else if c = '^' then some (.look f.caret)
  else if c = '$' then some (.look f.dollar)
  else (f.charSet? c).map f.chars

/-- What follows the closing parenthesis that stands first. -/
def closeGroup? {cs : List Char} (r : Later cs) : Option (After cs) :=
  match r with
  | ⟨')' :: more, lt⟩ => some ⟨more, lt⟩
  | _ => none

/-- The alternatives up to the end of a group or of the text. `branches` are those before, and `items`
    the parts of the one under construction. -/
def readBody? (st : Reader) (branches items : List Pattern) (cs : List Char) :
    Option (Pattern × Reader × Later cs) :=
  match nextChar? st.flags cs with
  | none => some (.ofEither (branches ++ [.ofSeq items]), st, ⟨[], Nat.zero_le _⟩)
  | some (c, ⟨rest, lt⟩) =>
    let go (st : Reader) (branches items : List Pattern) (r : Later rest) :
        Option (Pattern × Reader × Later cs) :=
      match readBody? st branches items r.1 with
      | none => none
      | some (p, st, r') =>
        some (p, st, ⟨r'.1, Nat.le_trans r'.2 (Nat.le_of_lt (Nat.lt_of_le_of_lt r.2 lt))⟩)
    let again (least : Nat) (most : Option Nat) (r : Later rest) :
        Option (Pattern × Reader × Later cs) :=
      match readLazy r.1 with
      | (isLazy, r') =>
        match repeatLast? st.flags items least most isLazy with
        | none => none
        | some items => go st branches items ⟨r'.1, Nat.le_trans r'.2 r.2⟩
    if c = ')' then
      some (.ofEither (branches ++ [.ofSeq items]), st, ⟨c :: rest, lt⟩)
    else if c = '|' then go st (branches ++ [.ofSeq items]) [] (.all rest)
    else if c = '(' then
      match openGroup? st rest with
      | none => none
      | some (.flags f, st, r) => go { st with flags := f } branches (items ++ [.empty]) r
      | some (.group index f, st', r) =>
        have : r.1.length < cs.length := Nat.lt_of_le_of_lt r.2 lt
        match readBody? { st' with flags := f } [] [] r.1 with
        | none => none
        | some (p, st'', r') =>
          match closeGroup? r' with
          | none => none
          | some r'' =>
            go { st'' with flags := st.flags } branches (items ++ [.group index p])
              ⟨r''.1, Nat.le_trans (Nat.le_of_lt r''.2) r.2⟩
    else if c = '[' then
      match readBracket? st.flags rest with
      | none => none
      | some (s, depth, r) =>
        go st branches (items ++ [enclosed depth (st.flags.chars s)]) r.later
    else if c = '*' then again 0 none (.all rest)
    else if c = '+' then again 1 none (.all rest)
    else if c = '?' then again 0 (some 1) (.all rest)
    else if c = '\x7b' then
      match readCounts? st.flags rest with
      | none => none
      | some (least, most, r) =>
        again least most ⟨skipBlank st.flags r.1, Nat.le_trans (skipBlank_length _ _) r.2⟩
    else if c = '\\' then
      match readEscape? st.flags rest with
      | none => none
      | some (e, r) =>
        match e.pattern? st.flags with
        | none => none
        | some p => go st branches (items ++ [p]) r.later
    else
      match plainPattern? st.flags c with
      | none => none
      | some p => go st branches (items ++ [p]) (.all rest)
termination_by cs.length
decreasing_by
  · exact Nat.lt_of_le_of_lt r.2 lt
  · exact this

/-- The normal form of the pattern of a whole text, and the names of its groups. Neither may the
    pattern nest too deep, nor its matcher be too large. -/
def parse? (text : List Char) : Option (Pattern × List (String × Nat)) :=
  match readBody? .start [] [] text with
  | some (p, st, ⟨[], _⟩) =>
    if p.depth ≤ Pattern.maxDepth ∧ p.normal.footprint ≤ Pattern.maxFootprint then
      some (p.normal, st.names)
    else none
  | _ => none

/-- The empty text is the pattern that matches nothing but the empty text. -/
theorem parse?_empty : parse? [] = some (.empty, []) := by
  unfold parse?
  rw [readBody?]
  rfl

end DataBinding.Regex
