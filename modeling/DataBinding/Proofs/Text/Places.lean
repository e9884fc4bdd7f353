import Mathlib
import DataBinding.Text.Search

/-!
# Where a search finds a pattern

A search finds the first place of its pattern: the pattern stands there and at no place before. Where
it finds none, the pattern stands nowhere in the text. Splitting goes on behind the places found, so
that no part holds the separator.

Results:

* `startsWith_iff`, `endsWith_iff`: the pattern is a prefix or a suffix of the text.
* `cutAt?_eq_none_iff`: nothing is found in a text without the pattern.
* `indexOf?_eq_some_iff`: the position found is the first one of the pattern.
* `not_infix_of_mem_splitOn`: no part of a split text holds the separator.
-/

namespace DataBinding.Text

variable {α : Type} [BEq α] [LawfulBEq α] {pattern text before rest : List α}

/-! ## Prefixes and suffixes -/

theorem afterPrefix?_append (pattern rest : List α) :
    afterPrefix? pattern (pattern ++ rest) = some rest := by
  induction pattern with
  | nil => rfl
  | cons p ps ih => rw [List.cons_append, afterPrefix?, if_pos (beq_self_eq_true p), ih]

/-- A text starts with its prefixes. -/
theorem startsWith_iff : startsWith pattern text = true ↔ pattern <+: text := by
  rw [startsWith, Option.isSome_iff_exists]
  constructor
  · rintro ⟨rest, h⟩
    exact ⟨rest, (afterPrefix?_eq_some h).symm⟩
  · rintro ⟨rest, rfl⟩
    exact ⟨rest, afterPrefix?_append _ _⟩

/-- A text ends with its suffixes. -/
theorem endsWith_iff : endsWith pattern text = true ↔ pattern <:+ text := by
  rw [endsWith, startsWith_iff, List.reverse_prefix]

theorem afterPrefix?_eq_none_iff : afterPrefix? pattern text = none ↔ ¬ pattern <+: text := by
  rw [← startsWith_iff, startsWith, Bool.not_eq_true, Option.isSome_eq_false_iff,
    Option.isNone_iff_eq_none]

/-! ## First places -/

theorem cutAt?_of_isPrefix (pattern rest : List α) :
    cutAt? pattern (pattern ++ rest) = some ([], rest) := by
  cases h : pattern ++ rest with
  | nil =>
    obtain ⟨rfl, rfl⟩ := List.append_eq_nil_iff.1 h
    rfl
  | cons c cs => rw [cutAt?, ← h, afterPrefix?_append]

theorem cutAt?_cons_of_not_isPrefix {c : α} {cs : List α} (h : ¬ pattern <+: c :: cs) :
    cutAt? pattern (c :: cs) = (cutAt? pattern cs).map fun (before, rest) => (c :: before, rest) := by
  rw [cutAt?, afterPrefix?_eq_none_iff.2 h]

/-- Nothing is found in a text without the pattern. -/
theorem cutAt?_eq_none_iff : cutAt? pattern text = none ↔ ¬ pattern <:+: text := by
  induction text with
  | nil =>
    rw [cutAt?, List.infix_nil]
    cases pattern <;> simp
  | cons c cs ih =>
    by_cases h : pattern <+: c :: cs
    · obtain ⟨rest, hrest⟩ := h
      rw [← hrest, cutAt?_of_isPrefix]
      exact iff_of_false (Option.some_ne_none _)
        (not_not_intro (List.prefix_append pattern rest).isInfix)
    · rw [cutAt?_cons_of_not_isPrefix h, Option.map_eq_none_iff, ih, List.infix_cons_iff]
      simp [h]

/-- The pattern stands at no place before the one found. -/
theorem not_prefix_drop_of_cutAt? (h : cutAt? pattern text = some (before, rest)) {j : Nat}
    (hj : j < before.length) : ¬ pattern <+: text.drop j := by
  induction text generalizing before j with
  | nil =>
    rw [cutAt?] at h
    split at h
    · cases h
      exact absurd hj (Nat.not_lt_zero j)
    · cases h
  | cons c cs ih =>
    by_cases hp : pattern <+: c :: cs
    · obtain ⟨more, hmore⟩ := hp
      rw [← hmore, cutAt?_of_isPrefix] at h
      cases h
      exact absurd hj (Nat.not_lt_zero j)
    · rw [cutAt?_cons_of_not_isPrefix hp] at h
      obtain ⟨⟨front, rest'⟩, hcut, heq⟩ := Option.map_eq_some_iff.1 h
      cases heq
      cases j with
      | zero => exact hp
      | succ j => exact ih hcut (Nat.lt_of_succ_lt_succ hj)

theorem prefix_drop_of_cutAt? (h : cutAt? pattern text = some (before, rest)) :
    pattern <+: text.drop before.length := by
  rw [cutAt?_eq_some h, List.append_assoc, List.drop_left]
  exact List.prefix_append _ _

/-- No position is found in a text without the pattern. -/
theorem indexOf?_eq_none_iff : indexOf? pattern text = none ↔ ¬ pattern <:+: text := by
  rw [indexOf?, Option.map_eq_none_iff, cutAt?_eq_none_iff]

/-- The position found is the first one of the pattern. -/
theorem indexOf?_eq_some_iff {i : Nat} : indexOf? pattern text = some i ↔
    i ≤ text.length ∧ pattern <+: text.drop i ∧ ∀ j < i, ¬ pattern <+: text.drop j := by
  have found {k : Nat} (h : indexOf? pattern text = some k) :
      k ≤ text.length ∧ pattern <+: text.drop k ∧ ∀ j < k, ¬ pattern <+: text.drop j := by
    obtain ⟨⟨before, rest⟩, hcut, rfl⟩ := Option.map_eq_some_iff.1 h
    refine ⟨?_, prefix_drop_of_cutAt? hcut, fun j => not_prefix_drop_of_cutAt? hcut⟩
    rw [cutAt?_eq_some hcut, List.append_assoc, List.length_append]
    exact Nat.le_add_right _ _
  refine ⟨found, ?_⟩
  rintro ⟨-, hi, hfirst⟩
  cases h : indexOf? pattern text with
  | none =>
    rw [indexOf?_eq_none_iff] at h
    exact absurd (hi.isInfix.trans (List.drop_suffix i text).isInfix) h
  | some k =>
    obtain ⟨-, hk, hbefore⟩ := found h
    rcases Nat.lt_trichotomy k i with hlt | rfl | hlt
    · exact absurd hk (hfirst k hlt)
    · rfl
    · exact absurd hi (hbefore i hlt)

theorem indexOf?_eq_zero_iff : indexOf? pattern text = some 0 ↔ startsWith pattern text = true := by
  rw [indexOf?_eq_some_iff, startsWith_iff]
  simp

/-! ## Parts -/

theorem splitOn_of_cutAt? {separator : List α} (hs : separator ≠ [])
    (h : cutAt? separator text = some (before, rest)) :
    splitOn separator hs text = before :: splitOn separator hs rest := by
  rw [splitOn]
  split
  · rename_i h'
    rw [h] at h'
    cases h'
    rfl
  · rename_i h'
    rw [h] at h'
    cases h'

theorem splitOn_of_cutAt?_none {separator : List α} (hs : separator ≠ [])
    (h : cutAt? separator text = none) : splitOn separator hs text = [text] := by
  rw [splitOn]
  split
  · rename_i h'
    rw [h] at h'
    cases h'
  · rfl

/-- No part of a split text holds the separator. -/
theorem not_infix_of_mem_splitOn {separator : List α} (hs : separator ≠ []) :
    ∀ part ∈ splitOn separator hs text, ¬ separator <:+: part := by
  fun_induction splitOn separator hs text with
  | case1 text before rest h ih =>
    intro part hmem
    rcases List.mem_cons.1 hmem with rfl | hmem
    · rintro ⟨front, back, hpart⟩
      have hlt : front.length < part.length := by
        have := List.length_pos_iff.2 hs
        rw [← hpart, List.length_append, List.length_append]
        omega
      refine not_prefix_drop_of_cutAt? h hlt ⟨back ++ separator ++ rest, ?_⟩
      rw [cutAt?_eq_some h, ← hpart]
      simp
    · exact ih part hmem
  | case2 text h =>
    intro part hmem
    rw [List.mem_singleton.1 hmem]
    exact cutAt?_eq_none_iff.1 h

end DataBinding.Text
