import DataBinding.Unicode.Property
import DataBinding.Unicode.CaseTable

/-!
# Case mapping and case folding

Upper and lower case of characters and text, and the sets of characters that differ only by case.
A capital sigma at the end of a word has a lower case of its own.
-/

namespace DataBinding.Unicode

/-- `c` moved by the distance of the row. -/
def ShiftRow.target (r : ShiftRow) (c : Nat) : Nat := ((c : Int) + r.shift).toNat

/-- Where the row moves `c`, if it moves it. -/
def ShiftRow.move? (r : ShiftRow) (c : Nat) : Option Nat :=
  if r.first ≤ c ∧ c ≤ r.last ∧ (c - r.first) % r.step = 0 then some (r.target c) else none

/-- `c` moved by the first row that moves it. -/
def shifted (rows : List ShiftRow) (c : Nat) : Nat := (rows.findSome? (·.move? c)).getD c

/-- The mapping of one character by a table of expansions and a table of rows. -/
def mapCase (expanded : List (Nat × List Nat)) (rows : List ShiftRow) (c : Char) : List Char :=
  match expanded.lookup c.toNat with
  | some cs => cs.map Char.ofNat
  | none => [Char.ofNat (shifted rows c.toNat)]

/-- The upper case of a character. -/
def upperChar (c : Char) : List Char := mapCase expandedUpper upperRows c

/-- The lower case of a character standing alone. -/
def lowerChar (c : Char) : List Char := mapCase expandedLower lowerRows c

/-- The upper case of a text. -/
def upper (cs : List Char) : List Char := cs.flatMap upperChar

/-- Does the first character that casing does not look through have case? -/
def startsCased (cs : List Char) : Bool :=
  match cs.dropWhile isCaseIgnorable with
  | c :: _ => isCased c
  | [] => false

/-- The lower case of `rest`, which follows the characters of `before`, nearest first. A capital
    sigma that ends a word becomes a final sigma. -/
def lowerAfter (before : List Char) : (rest : List Char) → List Char
  | [] => []
  | c :: rest =>
    (if c = 'Σ' then
      [if startsCased before && !startsCased rest then 'ς' else 'σ']
    else lowerChar c) ++ lowerAfter (c :: before) rest

/-- The lower case of a text. -/
def lower (cs : List Char) : List Char := lowerAfter [] cs

/-! ## Folding -/

/-- Every code point that folds to another, with the other. -/
def foldPairs : List (Nat × Nat) :=
  foldRows.flatMap fun r =>
    (List.range ((r.last - r.first) / r.step + 1)).map fun i =>
      let c := r.first + i * r.step
      (c, r.target c)

/-- The set together with every code point that differs from a member only by case. -/
def CodeSet.caseClosure (s : CodeSet) : CodeSet :=
  let targets := CodeSet.ofRanges <| foldPairs.filterMap fun (c, t) =>
    if s.contains c || s.contains t then some (t, t) else none
  let sources := foldPairs.filterMap fun (c, t) => if targets.contains t then some (c, c) else none
  s.union (targets.union ⟨sources⟩)

end DataBinding.Unicode
