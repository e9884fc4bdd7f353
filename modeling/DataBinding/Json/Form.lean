import DataBinding.Json.Basic
import DataBinding.Decimal.Reader

/-!
# Reading JSON text

Reading has two steps. The first finds the form of a text: it checks the grammar and keeps every
member, also those that repeat a name, and every number and string, also those that stand for no
value. The second turns a form into a value and refuses what has none. A reader that looks at some
members of a form only never meets the faults of the others.

Results:

* `readString?_length`, `readNumber?_length`, `skipBlank_length`: each reader leaves a shorter text,
  the one for blanks a text that is no longer.
-/

namespace DataBinding.Json

/-! ## Numbers -/

/-- The parts of a number as written. -/
structure NumberText where
  negative : Bool
  whole : List Char
  fraction : Option (List Char)
  /-- The sign and the digits of the exponent. -/
  exponent : Option (Bool × List Char)

/-- The largest significand that digits are added to. -/
def maxSignificand : Nat := 0xFFFFFFFFFFFFFFFF

/-- Adds digits to a significand as long as it stays within 64 bits, and counts the digits added. -/
def addDigits (n : Nat) : List Char → Nat × Nat
  | [] => (n, 0)
  | c :: rest =>
    let n' := 10 * n + (c.toNat - 48)
    if maxSignificand < n' then (n, 0)
    else
      let (m, k) := addDigits n' rest
      (m, k + 1)

/-- Divides by `10 ^ 308` until the exponent is at least `-308`. -/
def shrink (x : Float) (e : Nat) : Float × Nat :=
  if e ≤ 308 then (x, e)
  else if x == 0.0 then (x, 0)
  else shrink (x / Decimal.scaled 1 308) (e - 308)
termination_by e
decreasing_by omega

/-- A significand scaled by a power of ten with one rounding for the significand and one for each
    multiplication or division. No value when the result leaves the range of doubles. -/
def scaleSignificand? (n : Nat) (e : Int) : Option Float :=
  let x := Float.ofNat n
  if 0 ≤ e then
    if e ≤ 308 then
      let y := x * Decimal.scaled 1 e
      if y.isInf then none else some y
    else if n = 0 then some x
    else none
  else
    let (y, k) := shrink x (-e).toNat
    some (y / Decimal.scaled 1 k)

/-- The largest exponent that is read as a number. -/
def maxExponent : Nat := 0x7FFFFFFF

/-- The magnitude of a number as written. Digits of the whole part beyond 64 bits count only by
    their number, those of the fraction not at all. -/
def NumberText.magnitude? (t : NumberText) : Option Float :=
  let (n, used) := addDigits 0 t.whole
  let dropped : Int := t.whole.length - used
  if t.fraction.isNone && t.exponent.isNone && dropped = 0 then some (Float.ofNat n)
  else
    let (n, used) := addDigits n (t.fraction.getD [])
    let point := dropped - used
    match t.exponent with
    | none => scaleSignificand? n point
    | some (negative, ds) =>
      let e := Decimal.natOfDigits ds
      if maxExponent < e then
        if n ≠ 0 && !negative then none else some 0.0
      else scaleSignificand? n (if negative then point - e else point + e)

/-- The double of a number as written. -/
def NumberText.value? (t : NumberText) : Option Float :=
  t.magnitude?.map fun x => if t.negative then -x else x

/-- The whole part: `0` alone, or digits that do not start with `0`. -/
def readWhole? : List Char → Option (List Char × List Char)
  | [] => none
  | c :: rest =>
    if c = '0' then if rest.head?.any Char.isDigit then none else some ([c], rest)
    else if c.isDigit then some (c :: rest.takeWhile Char.isDigit, rest.dropWhile Char.isDigit)
    else none

/-- The fraction: a point and at least one digit, or nothing. -/
def readFraction? : List Char → Option (Option (List Char) × List Char)
  | '.' :: rest =>
    let ds := rest.takeWhile Char.isDigit
    if ds.isEmpty then none else some (some ds, rest.dropWhile Char.isDigit)
  | cs => some (none, cs)

/-- The exponent: a mark, a sign or none, and at least one digit, or nothing. -/
def readExponent? : List Char → Option (Option (Bool × List Char) × List Char)
  | [] => some (none, [])
  | c :: rest =>
    if c = 'e' ∨ c = 'E' then
      let (negative, more) := Decimal.takeSign rest
      let ds := more.takeWhile Char.isDigit
      if ds.isEmpty then none else some (some (negative, ds), more.dropWhile Char.isDigit)
    else some (none, c :: rest)

/-- The minus sign of a number. -/
def readMinus : List Char → Bool × List Char
  | '-' :: rest => (true, rest)
  | cs => (false, cs)

/-- A number and what follows it. -/
def readNumber? (cs : List Char) : Option (NumberText × List Char) := do
  let (negative, cs) := readMinus cs
  let (whole, cs) ← readWhole? cs
  let (fraction, cs) ← readFraction? cs
  let (exponent, cs) ← readExponent? cs
  return (⟨negative, whole, fraction, exponent⟩, cs)

theorem readMinus_length (cs : List Char) : (readMinus cs).2.length ≤ cs.length := by
  unfold readMinus
  split <;> simp

theorem readWhole?_length {cs whole rest : List Char} (h : readWhole? cs = some (whole, rest)) :
    rest.length < cs.length := by
  unfold readWhole? at h
  split at h
  · simp at h
  · rename_i c more
    have := (List.dropWhile_suffix (l := more) Char.isDigit).length_le
    split at h
    · split at h
      · simp at h
      · obtain ⟨-, rfl⟩ := Prod.mk.inj (Option.some.inj h)
        simp
    · split at h
      · obtain ⟨-, rfl⟩ := Prod.mk.inj (Option.some.inj h)
        simp only [List.length_cons]
        omega
      · simp at h

theorem readFraction?_length {cs rest : List Char} {f : Option (List Char)}
    (h : readFraction? cs = some (f, rest)) : rest.length ≤ cs.length := by
  unfold readFraction? at h
  split at h
  · rename_i more
    have := (List.dropWhile_suffix (l := more) Char.isDigit).length_le
    simp only at h
    split at h
    · simp at h
    · obtain ⟨-, rfl⟩ := Prod.mk.inj (Option.some.inj h)
      simp only [List.length_cons]
      omega
  · obtain ⟨-, rfl⟩ := Prod.mk.inj (Option.some.inj h)
    exact Nat.le_refl _

theorem takeSign_length (cs : List Char) : (Decimal.takeSign cs).2.length ≤ cs.length := by
  unfold Decimal.takeSign
  split <;> simp

theorem readExponent?_length {cs rest : List Char} {e : Option (Bool × List Char)}
    (h : readExponent? cs = some (e, rest)) : rest.length ≤ cs.length := by
  unfold readExponent? at h
  split at h
  · obtain ⟨-, rfl⟩ := Prod.mk.inj (Option.some.inj h)
    exact Nat.le_refl _
  · rename_i c more
    split at h
    · have h₁ := takeSign_length more
      have h₂ := (List.dropWhile_suffix (l := (Decimal.takeSign more).2) Char.isDigit).length_le
      simp only at h
      split at h
      · simp at h
      · obtain ⟨-, rfl⟩ := Prod.mk.inj (Option.some.inj h)
        simp only [List.length_cons]
        omega
    · obtain ⟨-, rfl⟩ := Prod.mk.inj (Option.some.inj h)
      exact Nat.le_refl _

theorem readNumber?_length {cs rest : List Char} {t : NumberText}
    (h : readNumber? cs = some (t, rest)) : rest.length < cs.length := by
  simp only [readNumber?, Option.bind_eq_bind, Option.bind_eq_some_iff] at h
  obtain ⟨⟨whole, cs₁⟩, h₁, ⟨fraction, cs₂⟩, h₂, ⟨exponent, cs₃⟩, h₃, h⟩ := h
  obtain ⟨-, rfl⟩ := Prod.mk.inj (Option.some.inj h)
  have := readMinus_length cs
  have := readWhole?_length h₁
  have := readFraction?_length h₂
  have := readExponent?_length h₃
  simp only at *
  omega

/-! ## Strings -/

/-- A piece of a quoted string: a character, or a unit written `\uXXXX`. -/
inductive Piece where
  | char (c : Char)
  | unit (n : Nat)

/-- The value of four hexadecimal digits. -/
def hexUnit? (a b c d : Char) : Option Nat := do
  let a ← Decimal.digitValue? 16 a
  let b ← Decimal.digitValue? 16 b
  let c ← Decimal.digitValue? 16 c
  let d ← Decimal.digitValue? 16 d
  return ((a * 16 + b) * 16 + c) * 16 + d

/-- The character of an escape of one letter. -/
def simpleEscape? (c : Char) : Option Char :=
  if c = '\x22' ∨ c = '\\' ∨ c = '/' then some c
  else if c = 'b' then some '\x08'
  else if c = 'f' then some '\x0c'
  else if c = 'n' then some '\n'
  else if c = 'r' then some '\r'
  else if c = 't' then some '\t'
  else none

/-- The pieces of a string up to its closing quote, and what follows the quote. -/
def readString? : List Char → Option (List Piece × List Char)
  | [] => none
  | '\\' :: 'u' :: a :: b :: c :: d :: rest => do
    let n ← hexUnit? a b c d
    let (ps, rest) ← readString? rest
    return (.unit n :: ps, rest)
  | '\\' :: e :: rest => do
    let c ← simpleEscape? e
    let (ps, rest) ← readString? rest
    return (.char c :: ps, rest)
  | c :: rest =>
    if c = '\x22' then some ([], rest)
    else if c.toNat < 0x20 ∨ c = '\\' then none
    else do
      let (ps, rest) ← readString? rest
      return (.char c :: ps, rest)

theorem readString?_length {cs rest : List Char} {ps : List Piece}
    (h : readString? cs = some (ps, rest)) : rest.length < cs.length := by
  fun_induction readString? cs generalizing ps rest with
  | case1 => simp at h
  | case2 a b c d more ih =>
    simp only [Option.bind_eq_bind, Option.bind_eq_some_iff] at h
    obtain ⟨n, -, ⟨ps', rest'⟩, h', h⟩ := h
    obtain ⟨-, rfl⟩ := Prod.mk.inj (Option.some.inj h)
    have := ih h'
    simp only [List.length_cons]
    omega
  | case3 e more _ ih =>
    simp only [Option.bind_eq_bind, Option.bind_eq_some_iff] at h
    obtain ⟨n, -, ⟨ps', rest'⟩, h', h⟩ := h
    obtain ⟨-, rfl⟩ := Prod.mk.inj (Option.some.inj h)
    have := ih h'
    simp only [List.length_cons]
    omega
  | case4 =>
    obtain ⟨-, rfl⟩ := Prod.mk.inj (Option.some.inj h)
    simp
  | case5 => simp at h
  | case6 c more _ _ _ _ ih =>
    simp only [Option.bind_eq_bind, Option.bind_eq_some_iff] at h
    obtain ⟨⟨ps', rest'⟩, h', h⟩ := h
    obtain ⟨-, rfl⟩ := Prod.mk.inj (Option.some.inj h)
    have := ih h'
    simp only [List.length_cons]
    omega

/-- Is `n` the first unit of a pair? -/
def isHighUnit (n : Nat) : Bool := decide (0xD800 ≤ n ∧ n ≤ 0xDBFF)

/-- Is `n` the second unit of a pair? -/
def isLowUnit (n : Nat) : Bool := decide (0xDC00 ≤ n ∧ n ≤ 0xDFFF)

/-- The code point of a pair of units. -/
def pairCode (high low : Nat) : Nat := 0x10000 + (high - 0xD800) * 0x400 + (low - 0xDC00)

/-- The text of the pieces. A unit of a pair must stand with the other one. -/
def textOfPieces? : List Piece → Option (List Char)
  | [] => some []
  | .char c :: rest => (textOfPieces? rest).map (c :: ·)
  | .unit h :: .unit l :: rest =>
    if isHighUnit h then
      if isLowUnit l then (textOfPieces? rest).map (Char.ofNat (pairCode h l) :: ·) else none
    else if isLowUnit h then none
    else (textOfPieces? (.unit l :: rest)).map (Char.ofNat h :: ·)
  | .unit h :: rest =>
    if isHighUnit h || isLowUnit h then none else (textOfPieces? rest).map (Char.ofNat h :: ·)

/-- The string of the pieces. -/
def stringOfPieces? (ps : List Piece) : Option String := (textOfPieces? ps).map String.ofList

/-! ## Forms -/

/-- A grammatical JSON text. Numbers and strings without a value keep their place. -/
inductive Form where
  | null
  | bool (b : Bool)
  | number (x : Option Float)
  | string (s : Option String)
  | array (items : List Form)
  | object (members : List (Option String × Form))

/-- A text shorter than `cs`. -/
abbrev Rest (cs : List Char) := { rest : List Char // rest.length < cs.length }

/-- A space, tab or line end. -/
def isBlank (c : Char) : Bool := c == ' ' || c == '\t' || c == '\n' || c == '\r'

/-- The text after its leading blanks. -/
def skipBlank (cs : List Char) : List Char := cs.dropWhile isBlank

theorem skipBlank_length (cs : List Char) : (skipBlank cs).length ≤ cs.length :=
  (List.dropWhile_suffix _).length_le

theorem length_of_skipBlank {cs rest : List Char} {c : Char} (h : skipBlank cs = c :: rest) :
    rest.length < cs.length := by
  have := skipBlank_length cs
  rw [h, List.length_cons] at this
  omega

mutual

/-- A value, after blanks, and what follows it. -/
def readForm? (cs : List Char) : Option (Form × Rest cs) :=
  match h : skipBlank cs with
  | '[' :: rest =>
    match h' : skipBlank rest with
    | ']' :: more =>
      some (.array [], ⟨more, Nat.lt_trans (length_of_skipBlank h') (length_of_skipBlank h)⟩)
    | _ =>
      match readItems? rest with
      | some (items, more) =>
        some (.array items, ⟨more.1, Nat.lt_trans more.2 (length_of_skipBlank h)⟩)
      | none => none
  | '\x7b' :: rest =>
    match h' : skipBlank rest with
    | '\x7d' :: more =>
      some (.object [], ⟨more, Nat.lt_trans (length_of_skipBlank h') (length_of_skipBlank h)⟩)
    | _ =>
      match readMembers? rest with
      | some (members, more) =>
        some (.object members, ⟨more.1, Nat.lt_trans more.2 (length_of_skipBlank h)⟩)
      | none => none
  | '\x22' :: rest =>
    match h' : readString? rest with
    | some (ps, more) =>
      some (.string (stringOfPieces? ps),
        ⟨more, Nat.lt_trans (readString?_length h') (length_of_skipBlank h)⟩)
    | none => none
  | 'n' :: 'u' :: 'l' :: 'l' :: rest =>
    some (.null, ⟨rest, by have := skipBlank_length cs; simp only [h, List.length_cons] at this; omega⟩)
  | 't' :: 'r' :: 'u' :: 'e' :: rest =>
    some (.bool true,
      ⟨rest, by have := skipBlank_length cs; simp only [h, List.length_cons] at this; omega⟩)
  | 'f' :: 'a' :: 'l' :: 's' :: 'e' :: rest =>
    some (.bool false,
      ⟨rest, by have := skipBlank_length cs; simp only [h, List.length_cons] at this; omega⟩)
  | other =>
    match h' : readNumber? other with
    | some (t, more) =>
      some (.number t.value?,
        ⟨more, by have := skipBlank_length cs; have := readNumber?_length h'; rw [h] at *; omega⟩)
    | none => none
termination_by (cs.length, 0)
decreasing_by
  all_goals exact Prod.Lex.left _ _ (length_of_skipBlank h)

/-- The elements up to the closing bracket, and what follows it. -/
def readItems? (cs : List Char) : Option (List Form × Rest cs) :=
  match readForm? cs with
  | none => none
  | some (item, ⟨rest, hr⟩) =>
    match h : skipBlank rest with
    | ']' :: more => some ([item], ⟨more, Nat.lt_trans (length_of_skipBlank h) hr⟩)
    | ',' :: more =>
      match readItems? more with
      | some (items, last) =>
        some (item :: items,
          ⟨last.1, Nat.lt_trans last.2 (Nat.lt_trans (length_of_skipBlank h) hr)⟩)
      | none => none
    | _ => none
termination_by (cs.length, 1)
decreasing_by
  · exact Prod.Lex.right _ (by omega)
  · exact Prod.Lex.left _ _ (Nat.lt_trans (length_of_skipBlank h) hr)

/-- The members up to the closing brace, and what follows it. -/
def readMembers? (cs : List Char) : Option (List (Option String × Form) × Rest cs) :=
  match h : skipBlank cs with
  | '\x22' :: rest =>
    match h₁ : readString? rest with
    | none => none
    | some (ps, rest₁) =>
      match h₂ : skipBlank rest₁ with
      | ':' :: rest₂ =>
        match readForm? rest₂ with
        | none => none
        | some (item, ⟨rest₃, hr⟩) =>
          have lt : rest₂.length < cs.length :=
            Nat.lt_trans (length_of_skipBlank h₂)
              (Nat.lt_trans (readString?_length h₁) (length_of_skipBlank h))
          match h₃ : skipBlank rest₃ with
          | '\x7d' :: more =>
            some ([(stringOfPieces? ps, item)],
              ⟨more, Nat.lt_trans (length_of_skipBlank h₃) (Nat.lt_trans hr lt)⟩)
          | ',' :: more =>
            match readMembers? more with
            | some (members, last) =>
              some ((stringOfPieces? ps, item) :: members,
                ⟨last.1, Nat.lt_trans last.2
                  (Nat.lt_trans (length_of_skipBlank h₃) (Nat.lt_trans hr lt))⟩)
            | none => none
          | _ => none
      | _ => none
  | _ => none
termination_by (cs.length, 0)
decreasing_by
  · exact Prod.Lex.left _ _ (Nat.lt_trans (length_of_skipBlank h₂)
      (Nat.lt_trans (readString?_length h₁) (length_of_skipBlank h)))
  · exact Prod.Lex.left _ _ (Nat.lt_trans (length_of_skipBlank h₃) (Nat.lt_trans hr lt))

end

/-- The form of a whole text. -/
def Form.read? (s : String) : Option Form :=
  match readForm? s.toList with
  | some (f, rest) => if (skipBlank rest.1).isEmpty then some f else none
  | none => none

/-! ## Values of forms -/

mutual

/-- The value of a form in which at most `depth` arrays and objects nest. The last member of a name
    counts. -/
def Form.value? (depth : Nat) : Form → Option Json
  | .null => some .null
  | .bool b => some (.bool b)
  | .number x => x.map .number
  | .string s => s.map .string
  | .array items =>
    if depth = 0 then none else (itemValues? (depth - 1) items).map .array
  | .object members =>
    if depth = 0 then none
    else (memberValues? (depth - 1) members).map fun ms => .object (Dict.ofList ms)

/-- The values of the elements. -/
def itemValues? (depth : Nat) : List Form → Option (List Json)
  | [] => some []
  | f :: rest => do
    let j ← Form.value? depth f
    let values ← itemValues? depth rest
    return j :: values

/-- The values of the members, in the order of the text. -/
def memberValues? (depth : Nat) : List (Option String × Form) → Option (List (String × Json))
  | [] => some []
  | (name, f) :: rest => do
    let name ← name
    let j ← Form.value? depth f
    let values ← memberValues? depth rest
    return (name, j) :: values

end

/-- The number of arrays and objects that may nest in a text. -/
def maxDepth : Nat := 127

/-- The value of a whole text. -/
def read? (s : String) : Option Json := (Form.read? s).bind (Form.value? maxDepth)

end DataBinding.Json
