import DataBinding.Regex.Basic

/-!
# Normal forms of patterns

Patterns are brought into a form without needless parts: sequences and alternatives are not nested in
their like, neighbouring characters make one literal, single characters as alternatives make one set,
and what starts all alternatives stands before them once. The last of these is no mere saving: it
changes which of several matches comes first, so the form belongs to the meaning of a pattern.

Results:

* `same_iff`: `same` decides whether two patterns are equal.
* `commonStart_append_drop`: the common start of two lists, with what follows it in the first, is the
  first.
-/

namespace DataBinding.Regex.Pattern

open Unicode (CodeSet)

/-! ## Equality -/

mutual

/-- Are two patterns the same? -/
def same : Pattern → Pattern → Bool
  | empty, empty => true
  | literal cs, literal ds => decide (cs = ds)
  | chars s u, chars t v => decide (s = t) && u == v
  | look l, look k => decide (l = k)
  | group i p, group j q => decide (i = j) && same p q
  | seq ps, seq qs => sameAll ps qs
  | either ps, either qs => sameAll ps qs
  | turns p least most greedy, turns q least' most' greedy' =>
    decide (least = least') && decide (most = most') && greedy == greedy' && same p q
  | _, _ => false

/-- Are two lists of patterns the same? -/
def sameAll : List Pattern → List Pattern → Bool
  | [], [] => true
  | p :: ps, q :: qs => same p q && sameAll ps qs
  | _, _ => false

end

mutual

theorem same_refl : (p : Pattern) → same p p = true
  | empty | literal _ | chars _ _ | look _ => by simp [same]
  | group _ p => by simp [same, same_refl p]
  | seq ps | either ps => by simp [same, sameAll_refl ps]
  | turns p _ _ _ => by simp [same, same_refl p]

theorem sameAll_refl : (ps : List Pattern) → sameAll ps ps = true
  | [] => by simp [sameAll]
  | p :: ps => by simp [sameAll, same_refl p, sameAll_refl ps]

end

mutual

theorem eq_of_same : (p q : Pattern) → same p q = true → p = q
  | empty, q, h => by cases q <;> simp_all [same]
  | literal _, q, h => by cases q <;> simp_all [same]
  | chars _ _, q, h => by cases q <;> simp_all [same]
  | look _, q, h => by cases q <;> simp_all [same]
  | group _ p, q, h => by
    cases q with
    | group j q =>
      simp only [same, Bool.and_eq_true, decide_eq_true_eq] at h
      rw [h.1, eq_of_same p q h.2]
    | _ => simp [same] at h
  | seq ps, q, h => by
    cases q with
    | seq qs => rw [eq_of_sameAll ps qs (by simpa [same] using h)]
    | _ => simp [same] at h
  | either ps, q, h => by
    cases q with
    | either qs => rw [eq_of_sameAll ps qs (by simpa [same] using h)]
    | _ => simp [same] at h
  | turns p _ _ _, q, h => by
    cases q with
    | turns q _ _ _ =>
      simp only [same, Bool.and_eq_true, decide_eq_true_eq, beq_iff_eq] at h
      rw [h.1.1.1, h.1.1.2, h.1.2, eq_of_same p q h.2]
    | _ => simp [same] at h

theorem eq_of_sameAll : (ps qs : List Pattern) → sameAll ps qs = true → ps = qs
  | [], [], _ => rfl
  | [], _ :: _, h => by simp [sameAll] at h
  | _ :: _, [], h => by simp [sameAll] at h
  | p :: ps, q :: qs, h => by
    simp only [sameAll, Bool.and_eq_true] at h
    rw [eq_of_same p q h.1, eq_of_sameAll ps qs h.2]

end

/-- `same` decides whether two patterns are equal. -/
theorem same_iff {p q : Pattern} : same p q = true ↔ p = q :=
  ⟨eq_of_same p q, fun h => h ▸ same_refl p⟩

instance : DecidableEq Pattern := fun _ _ => decidable_of_iff _ same_iff

/-! ## Sets -/

/-- One character of a set. The character of a set of one is a literal, and the set without members
    counts as written without Unicode classes. -/
def ofSet (s : CodeSet) (unicode : Bool) : Pattern :=
  match s.ranges with
  | [] => chars s false
  | [(lo, hi)] => if lo = hi then literal [Char.ofNat lo] else chars s unicode
  | _ => chars s unicode

/-- The set of a pattern that matches one character of a set. -/
def set? : Pattern → Option CodeSet
  | chars s _ => some s
  | literal [c] => some (.singleton c)
  | _ => none

/-! ## Sequences -/

/-- The items that a pattern adds to a sequence. -/
def items : Pattern → List Pattern
  | empty => []
  | seq ps => ps
  | p => [p]

/-- A list with its neighbouring literals joined. -/
def joinLiterals : List Pattern → List Pattern
  | [] => []
  | literal cs :: rest =>
    match joinLiterals rest with
    | literal ds :: more => literal (cs ++ ds) :: more
    | more => literal cs :: more
  | p :: rest => p :: joinLiterals rest

/-- The sequence of patterns in normal form. -/
def sequence (ps : List Pattern) : Pattern := ofSeq (joinLiterals (ps.flatMap items))

/-! ## Alternatives -/

/-- The alternatives that a pattern adds to others. -/
def branches : Pattern → List Pattern
  | either ps => ps
  | p => [p]

/-- The alternatives of patterns in normal form. If each matches one character of a set they are one
    set; no alternatives match nothing. -/
def oneOf (ps : List Pattern) : Pattern :=
  match ps.flatMap branches with
  | [] => ofSet .empty false
  | [p] => p
  | qs =>
    match qs.mapM set? with
    | some sets => ofSet (.unions sets) true
    | none => either qs

/-- The items of patterns that all are sequences. -/
def sequences? (ps : List Pattern) : Option (List (List Pattern)) :=
  ps.mapM fun
    | seq qs => some qs
    | _ => none

/-- The longest list that starts both lists. -/
def commonStart : List Pattern → List Pattern → List Pattern
  | p :: ps, q :: qs => if p = q then p :: commonStart ps qs else []
  | _, _ => []

/-- The common start of two lists, with what follows it in the first, is the first. -/
theorem commonStart_append_drop (ps qs : List Pattern) :
    commonStart ps qs ++ ps.drop (commonStart ps qs).length = ps := by
  induction ps generalizing qs with
  | nil => rfl
  | cons p ps ih =>
    cases qs with
    | nil => rfl
    | cons q qs =>
      by_cases h : p = q
      · simp [commonStart, h, ih]
      · simp [commonStart, h]

/-- The longest list that starts all lists. -/
def startOfAll : List (List Pattern) → List Pattern
  | [] => []
  | ps :: rest => rest.foldl commonStart ps

/-- The alternatives of patterns in normal form, behind the items with which all of them start. -/
def alternatives (ps : List Pattern) : Pattern :=
  match oneOf ps with
  | either qs =>
    match sequences? qs with
    | some lists =>
      let start := startOfAll lists
      if start.isEmpty then either qs
      else sequence (start ++ [oneOf (lists.map fun l => sequence (l.drop start.length))])
    | none => either qs
  | p => p

/-! ## Repetition -/

/-- Turns of a pattern in normal form. Of a pattern that takes no character one turn is as good as
    many. -/
def repeated (p : Pattern) (least : Nat) (most : Option Nat) (greedy : Bool) : Pattern :=
  let least := if p.takesNone then min least 1 else least
  let most := if p.takesNone then some (min (most.getD 1) 1) else most
  if most = some 0 then empty
  else if least = 1 ∧ most = some 1 then p
  else turns p least most greedy

/-! ## Patterns -/

mutual

/-- The normal form of a pattern. -/
def normal : Pattern → Pattern
  | empty => empty
  | literal cs => literal cs
  | chars s unicode => ofSet s unicode
  | look l => look l
  | group none p => normal p
  | group (some i) p => group (some i) (normal p)
  | seq ps => sequence (normalAll ps)
  | either ps => alternatives (normalAll ps)
  | turns p least most greedy => repeated (normal p) least most greedy

/-- The normal forms of the patterns of a list. -/
def normalAll : List Pattern → List Pattern
  | [] => []
  | p :: rest => normal p :: normalAll rest

end

/-- A group without a number is the pattern in it. -/
theorem normal_group_none (p : Pattern) : (group none p).normal = p.normal := by
  rw [normal]

end DataBinding.Regex.Pattern
