/-!
# Sets of code points

A set of code points is written as increasing, disjoint, closed ranges. Membership walks the ranges
and stops at the first that reaches the code point. Union, intersection and complement keep the form.

Results:

* `CodeSet.complement_empty`: the complement of the empty set is the full set.
* `CodeSet.contains_all`: the full set holds every code point.
* `CodeSet.contains_of_head`, `CodeSet.contains_of_lt_head`: the code points of the first range are
  members, and those below it are not.
* `CodeSet.exists_range_of_contains`: every member lies in a range.
-/

namespace DataBinding.Unicode

/-- A set of code points, as increasing disjoint closed ranges. -/
structure CodeSet where
  ranges : List (Nat × Nat)
  deriving DecidableEq, Repr

namespace CodeSet

/-- The empty set. -/
def empty : CodeSet := ⟨[]⟩

/-- The largest code point. -/
def maxCode : Nat := 0x10FFFF

/-- All code points. -/
def all : CodeSet := ⟨[(0, maxCode)]⟩

/-- Is `c` in one of the ranges? The first range that ends at or after `c` decides. -/
def inRanges (c : Nat) : List (Nat × Nat) → Bool
  | [] => false
  | (lo, hi) :: rest => if c ≤ hi then decide (lo ≤ c) else inRanges c rest

/-- Is `c` in the set? -/
def contains (s : CodeSet) (c : Nat) : Bool := inRanges c s.ranges

/-- Is the character `c` in the set? -/
def holds (s : CodeSet) (c : Char) : Bool := s.contains c.toNat

/-! ## Building -/

/-- Joins ranges that touch or overlap. The ranges must come in order of their first code point. -/
def coalesce : List (Nat × Nat) → List (Nat × Nat)
  | [] => []
  | r :: rest => go r rest
where
  /-- Extends the open range `cur` over the ranges that touch it. -/
  go (cur : Nat × Nat) : List (Nat × Nat) → List (Nat × Nat)
    | [] => [cur]
    | r :: rest =>
      if r.1 ≤ cur.2 + 1 then go (cur.1, max cur.2 r.2) rest else cur :: go r rest

/-- The set of the code points of any ranges, in any order. Empty ranges are dropped. -/
def ofRanges (rs : List (Nat × Nat)) : CodeSet :=
  ⟨coalesce ((rs.filter fun r => r.1 ≤ r.2).mergeSort fun a b => a.1 ≤ b.1)⟩

/-- The set of one character. -/
def singleton (c : Char) : CodeSet := ⟨[(c.toNat, c.toNat)]⟩

/-- The code points of either set. -/
def union (s t : CodeSet) : CodeSet := ofRanges (s.ranges ++ t.ranges)

/-- The code points of any of the sets. -/
def unions (sets : List CodeSet) : CodeSet := ofRanges (sets.flatMap CodeSet.ranges)

/-- The gaps of `ranges` from `start` up to the largest code point. -/
def gaps (start : Nat) : List (Nat × Nat) → List (Nat × Nat)
  | [] => if start ≤ maxCode then [(start, maxCode)] else []
  | (lo, hi) :: rest =>
    if start < lo then (start, lo - 1) :: gaps (hi + 1) rest else gaps (hi + 1) rest

/-- The code points outside the set. -/
def complement (s : CodeSet) : CodeSet := ⟨gaps 0 s.ranges⟩

/-- The code points of both sets. -/
def inter (s t : CodeSet) : CodeSet := (s.complement.union t.complement).complement

/-- The code points of `s` outside `t`. -/
def diff (s t : CodeSet) : CodeSet := s.inter t.complement

/-- The code points of exactly one of the sets. -/
def symmDiff (s t : CodeSet) : CodeSet := (s.union t).diff (s.inter t)

/-- The set of a name in a table of names, short names and sets. -/
def named? (table : List (String × String × CodeSet)) (name : String) : Option CodeSet :=
  (table.find? fun (long, short, _) => long == name || short == name).map fun (_, _, s) => s

/-- Does the set hold no code point? -/
def isEmpty (s : CodeSet) : Bool := s.ranges.isEmpty

/-- The code points of the first range are in the set. -/
theorem contains_of_head {s : CodeSet} {lo hi c : Nat} (h : s.ranges.head? = some (lo, hi))
    (h₁ : lo ≤ c) (h₂ : c ≤ hi) : s.contains c = true := by
  obtain ⟨ranges⟩ := s
  cases ranges with
  | nil => simp at h
  | cons r rest =>
    obtain rfl : r = (lo, hi) := by simpa using h
    simp [contains, inRanges, h₁, h₂]

/-- The code points below the first range are not in the set. -/
theorem contains_of_lt_head {s : CodeSet} {lo hi c : Nat} (h : s.ranges.head? = some (lo, hi))
    (hr : lo ≤ hi) (hc : c < lo) : s.contains c = false := by
  obtain ⟨ranges⟩ := s
  cases ranges with
  | nil => simp at h
  | cons r rest =>
    obtain rfl : r = (lo, hi) := by simpa using h
    rw [contains, inRanges, if_pos (by omega)]
    exact decide_eq_false (by omega)

/-- A member lies in one of the ranges. -/
theorem exists_range_of_contains {s : CodeSet} {c : Nat} (h : s.contains c = true) :
    ∃ r ∈ s.ranges, r.1 ≤ c ∧ c ≤ r.2 := by
  obtain ⟨ranges⟩ := s
  have hin : inRanges c ranges = true := h
  induction ranges with
  | nil => cases hin
  | cons r rest ih =>
    obtain ⟨lo, hi⟩ := r
    rw [inRanges] at hin
    split at hin
    · rename_i hhi
      exact ⟨(lo, hi), List.mem_cons_self, of_decide_eq_true hin, hhi⟩
    · obtain ⟨r, hr, hc⟩ := ih hin hin
      exact ⟨r, List.mem_cons_of_mem _ hr, hc⟩

/-- The complement of the empty set is the set of all code points. -/
theorem complement_empty : empty.complement = all := rfl

/-- Every code point up to the largest is in the full set. -/
theorem contains_all {c : Nat} (h : c ≤ maxCode) : all.contains c = true := by
  simp [contains, all, inRanges, h]

end CodeSet

end DataBinding.Unicode
