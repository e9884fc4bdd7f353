import DataBinding.Regex.Basic

/-!
# The size of a matcher

A matcher reads bytes. It needs a state for every byte of a literal and, for a set of characters, one
for every range of bytes with which the written forms of members go on alike. Repeated patterns are
written out. The size of a pattern says how large its matcher becomes.

Results:

* `length_of_mem_byteRanges`: a written form has as many bytes as asked for.
* `newStates_self`: a written form that is there already needs no new states.
-/

namespace DataBinding.Regex.Pattern

open Unicode (CodeSet)

/-! ## Written forms -/

/-- Ranges of bytes, one for each byte of a written form. -/
abbrev ByteRanges := List (Nat × Nat)

/-- The number of values of `n` bytes that go on a character, six bits each. -/
def blockSize : Nat → Nat
  | 0 => 1
  | n + 1 => 64 * blockSize n

/-- The numbers from `lo` to `hi` in the form of one digit before `n` digits to the base 64. -/
def byteRanges : (n lo hi : Nat) → List ByteRanges
  | 0, lo, hi => [[(lo, hi)]]
  | n + 1, lo, hi =>
    let block := blockSize (n + 1)
    let first := lo / block
    let last := hi / block
    let within (d lo hi : Nat) := (byteRanges n lo hi).map ((d, d) :: ·)
    if first = last then within first (lo % block) (hi % block)
    else
      let startsWhole := lo % block = 0
      let stopsWhole := hi % block = block - 1
      let lower := if startsWhole then [] else within first (lo % block) (block - 1)
      let upper := if stopsWhole then [] else within last 0 (hi % block)
      let from' := if startsWhole then first else first + 1
      let upTo := if stopsWhole then last else last - 1
      let whole := if from' ≤ upTo then [(from', upTo) :: List.replicate (n + 1) (0, 63)] else []
      lower ++ whole ++ upper

/-- A written form has as many bytes as asked for. -/
theorem length_of_mem_byteRanges {n lo hi : Nat} {l : ByteRanges} (h : l ∈ byteRanges n lo hi) :
    l.length = n + 1 := by
  induction n generalizing lo hi l with
  | zero => simp_all [byteRanges]
  | succ n ih =>
    have within : ∀ {d lo hi : Nat}, l ∈ (byteRanges n lo hi).map ((d, d) :: ·) →
        l.length = n + 1 + 1 := by
      intro d lo hi hl
      obtain ⟨k, hk, rfl⟩ := List.mem_map.1 hl
      simp [ih hk]
    have part : ∀ {c : Prop} [Decidable c] {d lo hi : Nat},
        l ∈ (if c then [] else (byteRanges n lo hi).map ((d, d) :: ·)) → l.length = n + 1 + 1 := by
      intro c _ d lo hi hl
      split at hl
      · simp at hl
      · exact within hl
    have whole : ∀ {a b : Nat}, l ∈ (if a ≤ b then [(a, b) :: List.replicate (n + 1) (0, 63)] else []) →
        l.length = n + 1 + 1 := by
      intro a b hl
      split at hl
      · obtain rfl := List.mem_singleton.1 hl
        simp
      · simp at hl
    simp only [byteRanges] at h
    by_cases same : lo / blockSize (n + 1) = hi / blockSize (n + 1)
    · rw [if_pos same] at h
      exact within h
    · rw [if_neg same] at h
      rcases List.mem_append.1 h with h | h
      · rcases List.mem_append.1 h with h | h
        · exact part h
        · exact whole h
      · exact part h

/-- The code points with written forms of equal length: the number of bytes after the first, the
    first and last code point, and the number that marks the first byte. -/
def planes : List (Nat × Nat × Nat × Nat) := [
  (0, 0, 0x7F, 0), (1, 0x80, 0x7FF, 0xC0), (2, 0x800, 0xD7FF, 0xE0), (2, 0xE000, 0xFFFF, 0xE0),
  (3, 0x10000, 0x10FFFF, 0xF0)]

/-- The written forms of the characters of a set. -/
def writtenForms (s : CodeSet) : List ByteRanges :=
  s.ranges.flatMap fun (lo, hi) => planes.flatMap fun (n, first, last, mark) =>
    let lo := max lo first
    let hi := min hi last
    if lo ≤ hi then
      (byteRanges n lo hi).map fun
        | (a, b) :: rest => (a + mark, b + mark) :: rest
        | [] => []
    else []

/-- The number of states that a written form needs after the one before it. -/
def newStates : (before form : ByteRanges) → Nat
  | x :: xs, y :: ys => if x = y then newStates xs ys else ys.length + 1
  | _, ys => ys.length

/-- A written form that is there already needs no new states. -/
theorem newStates_self (form : ByteRanges) : newStates form form = 0 := by
  induction form with
  | nil => rfl
  | cons x xs ih => simp [newStates, ih]

/-- The number of states that written forms need after the form before them. -/
def statesAfter (before : ByteRanges) : List ByteRanges → Nat
  | [] => 0
  | form :: rest => newStates before form + statesAfter form rest

/-! ## Patterns -/

/-- The bytes of a state. -/
def stateSize : Nat := 32

/-- The bytes of a way on from a state. -/
def edgeSize : Nat := 4

/-- The bytes that a set of characters needs. -/
def setFootprint (s : CodeSet) : Nat :=
  if s.ranges.all fun r => r.2 < 0x80 then 2 * stateSize + 2 * edgeSize * s.ranges.length
  else
    let forms := writtenForms s
    2 * stateSize + edgeSize * forms.length + stateSize * statesAfter [] forms

/-- The bytes that some turns of a pattern need that needs `n` bytes itself. -/
def turnsFootprint (n least : Nat) (takes : Bool) : Option Nat → Nat
  | none =>
    if least = 0 ∧ !takes then n + 3 * stateSize + 4 * edgeSize
    else n * max 1 least + stateSize + 2 * edgeSize
  | some most =>
    n * least + (if least = most then 0 else (if least = 0 then 2 else 1) * stateSize) +
      (most - least) * (n + stateSize + 2 * edgeSize)

mutual

/-- The bytes that the matcher of a pattern needs. -/
def footprint : Pattern → Nat
  | empty | look _ => stateSize
  | literal cs => stateSize * (String.ofList cs).utf8ByteSize
  | chars s _ => setFootprint s
  | group none p => footprint p
  | group (some _) p => footprint p + 2 * stateSize
  | seq ps => footprintAll ps
  | either ps => footprintAll ps + 2 * stateSize + edgeSize * ps.length
  | turns p least most _ => turnsFootprint (footprint p) least p.takes most

/-- The bytes that the matchers of the patterns of a list need. -/
def footprintAll : List Pattern → Nat
  | [] => 0
  | p :: rest => footprint p + footprintAll rest

end

/-- The bytes that a matcher may need. -/
def maxFootprint : Nat := 0xA00000

end DataBinding.Regex.Pattern
