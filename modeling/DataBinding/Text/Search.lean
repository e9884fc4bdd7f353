/-!
# Searching, cutting and splitting texts

Texts are lists of characters, and every position and length counts characters.

Results:

* `cutAt?_eq_some`: where a search finds the pattern, the text is what stands before it, the pattern
  and what follows it.
* `intercalate_splitOn`: the parts of a text joined by their separator give the text.
-/

namespace DataBinding.Text

variable {α : Type} [BEq α]

/-- What follows `pattern` at the start of the text. -/
def afterPrefix? : (pattern text : List α) → Option (List α)
  | [], text => some text
  | _ :: _, [] => none
  | p :: ps, c :: cs => if p == c then afterPrefix? ps cs else none

/-- The first place of `pattern`: what stands before it and what follows it. -/
def cutAt? (pattern : List α) : (text : List α) → Option (List α × List α)
  | [] => if pattern.isEmpty then some ([], []) else none
  | c :: cs =>
    match afterPrefix? pattern (c :: cs) with
    | some rest => some ([], rest)
    | none => (cutAt? pattern cs).map fun (before, rest) => (c :: before, rest)

theorem afterPrefix?_eq_some [LawfulBEq α] {pattern text rest : List α}
    (h : afterPrefix? pattern text = some rest) : text = pattern ++ rest := by
  induction pattern generalizing text with
  | nil => simpa [afterPrefix?] using h
  | cons p ps ih =>
    cases text with
    | nil => simp [afterPrefix?] at h
    | cons c cs =>
      simp only [afterPrefix?] at h
      split at h
      · rename_i hp
        rw [eq_of_beq hp, ih h, List.cons_append]
      · simp at h

/-- Where a search finds the pattern, the text is what stands before it, the pattern and what follows
    it. -/
theorem cutAt?_eq_some [LawfulBEq α] {pattern text before rest : List α}
    (h : cutAt? pattern text = some (before, rest)) : text = before ++ pattern ++ rest := by
  induction text generalizing before with
  | nil =>
    simp only [cutAt?] at h
    split at h
    · rename_i hp
      obtain ⟨rfl, rfl⟩ := Prod.mk.inj (Option.some.inj h)
      simpa using hp
    · simp at h
  | cons c cs ih =>
    simp only [cutAt?] at h
    split at h
    · rename_i rest' hp
      obtain ⟨rfl, rfl⟩ := Prod.mk.inj (Option.some.inj h)
      simpa using afterPrefix?_eq_some hp
    · obtain ⟨⟨b, r⟩, h', he⟩ := Option.map_eq_some_iff.1 h
      obtain ⟨rfl, rfl⟩ := Prod.mk.inj he
      simp [ih h']

theorem length_of_cutAt? [LawfulBEq α] {pattern text before rest : List α}
    (h : cutAt? pattern text = some (before, rest)) (hp : pattern ≠ []) :
    rest.length < text.length := by
  have := congrArg List.length (cutAt?_eq_some h)
  have := List.length_pos_iff.2 hp
  simp only [List.length_append] at *
  omega

/-- The parts of the text between the places of a separator that is not empty. -/
def splitOn [LawfulBEq α] (separator : List α) (hs : separator ≠ []) (text : List α) :
    List (List α) :=
  match _h : cutAt? separator text with
  | some (before, rest) => before :: splitOn separator hs rest
  | none => [text]
termination_by text.length
decreasing_by exact length_of_cutAt? _h hs

/-- The parts of a text joined by their separator give the text. -/
theorem intercalate_splitOn [LawfulBEq α] {separator : List α} (hs : separator ≠ [])
    (text : List α) : separator.intercalate (splitOn separator hs text) = text := by
  fun_induction splitOn separator hs text with
  | case1 text before rest h ih =>
    have hne : splitOn separator hs rest ≠ [] := by
      rw [splitOn]
      split <;> simp
    obtain ⟨p, ps, hp⟩ := List.exists_cons_of_ne_nil hne
    rw [hp] at ih ⊢
    rw [cutAt?_eq_some h]
    simp only [List.intercalate, List.intersperse, List.flatten_cons] at ih ⊢
    simp [List.append_assoc, ih]
  | case2 => simp [List.intercalate]

/-- Does the text start with `pattern`? -/
def startsWith (pattern text : List α) : Bool := (afterPrefix? pattern text).isSome

/-- Does the text end with `pattern`? -/
def endsWith (pattern text : List α) : Bool := startsWith pattern.reverse text.reverse

/-- The position of the first place of `pattern`. -/
def indexOf? (pattern text : List α) : Option Nat := (cutAt? pattern text).map fun r => r.1.length

/-- The elements from `start` up to `stop`. -/
def slice (start stop : Nat) (text : List α) : List α := (text.drop start).take (stop - start)

/-- The text without the elements of `p` at its ends. -/
def trim (p : α → Bool) (text : List α) : List α :=
  ((text.dropWhile p).reverse.dropWhile p).reverse

end DataBinding.Text
