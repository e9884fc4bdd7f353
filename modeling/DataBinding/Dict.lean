/-!
# Dictionaries

A dictionary is a list of named entries in increasing order of name, where names compare by their
code points. The order is the one in which entries are listed, printed and written as JSON.

Results:

* `Dict.get?_insert_self`, `Dict.get?_insert_of_ne`: what a look-up finds after an insertion.
* `Dict.keys_insert_pairwise`: insertion keeps the names in strictly increasing order.
-/

namespace DataBinding

/-- Entries by name, in increasing order of name. -/
abbrev Dict (α : Type) := List (String × α)

namespace Dict

variable {α β : Type}

/-- The names, in order. -/
def keys (d : Dict α) : List String := d.map Prod.fst

/-- The entry called `name`. -/
def get? (d : Dict α) (name : String) : Option α := List.lookup name d

/-- Is there an entry called `name`? -/
def contains (d : Dict α) (name : String) : Bool := (get? d name).isSome

/-- Adds the entry `name`, in the place of one of that name. -/
def insert : Dict α → String → α → Dict α
  | [], name, a => [(name, a)]
  | (k, b) :: rest, name, a =>
    if name < k then (name, a) :: (k, b) :: rest
    else if name = k then (name, a) :: rest
    else (k, b) :: insert rest name a

/-- Drops the entry called `name`. -/
def erase (d : Dict α) (name : String) : Dict α := d.filter fun e => e.1 != name

/-- The dictionary of the entries, where the last entry of a name counts. -/
def ofList (entries : List (String × α)) : Dict α :=
  entries.foldl (fun d e => insert d e.1 e.2) []

/-! ## Look-ups after insertion -/

@[simp] theorem get?_nil (name : String) : get? ([] : Dict α) name = none := rfl

theorem get?_cons (e : String × α) (d : Dict α) (name : String) :
    get? (e :: d) name = if name = e.1 then some e.2 else get? d name := by
  obtain ⟨k, b⟩ := e
  by_cases h : name = k
  · subst h
    simp [get?]
  · have : (name == k) = false := by simpa using h
    simp only [get?, List.lookup_cons, this, h, if_false]

@[simp] theorem get?_insert_self (d : Dict α) (name : String) (a : α) :
    get? (insert d name a) name = some a := by
  induction d with
  | nil => simp [insert, get?_cons]
  | cons e rest ih =>
    obtain ⟨k, b⟩ := e
    simp only [insert]
    split
    · simp [get?_cons]
    · split
      · simp [get?_cons]
      · simp [get?_cons, *]

theorem get?_insert_of_ne (d : Dict α) {name other : String} (a : α) (h : other ≠ name) :
    get? (insert d name a) other = get? d other := by
  induction d with
  | nil => simp [insert, get?_cons, h]
  | cons e rest ih =>
    obtain ⟨k, b⟩ := e
    simp only [insert]
    split
    · simp [get?_cons, h]
    · split
      · rename_i hk
        subst hk
        simp [get?_cons, h]
      · simp [get?_cons, ih]

/-! ## The order of names -/

theorem mem_keys_insert {d : Dict α} {name x : String} {a : α}
    (h : x ∈ keys (insert d name a)) : x = name ∨ x ∈ keys d := by
  induction d with
  | nil => simpa [insert, keys] using h
  | cons e rest ih =>
    obtain ⟨k, b⟩ := e
    simp only [insert] at h
    split at h
    · simpa [keys] using h
    · split at h
      · rename_i hk
        subst hk
        simp only [keys, List.map_cons, List.mem_cons] at h ⊢
        exact h.elim Or.inl fun h => Or.inr (Or.inr h)
      · simp only [keys, List.map_cons, List.mem_cons] at h ih ⊢
        rcases h with h | h
        · exact Or.inr (Or.inl h)
        · rcases ih h with h | h
          · exact Or.inl h
          · exact Or.inr (Or.inr h)

/-- Insertion keeps the names in strictly increasing order. -/
theorem keys_insert_pairwise {d : Dict α} (name : String) (a : α)
    (h : (keys d).Pairwise (· < ·)) : (keys (insert d name a)).Pairwise (· < ·) := by
  induction d with
  | nil => simp [insert, keys]
  | cons e rest ih =>
    obtain ⟨k, b⟩ := e
    simp only [keys, List.map_cons, List.pairwise_cons] at h
    simp only [insert]
    split
    · rename_i hlt
      simp only [keys, List.map_cons, List.pairwise_cons]
      refine ⟨?_, h⟩
      intro x hx
      rcases List.mem_cons.1 hx with rfl | hx
      · exact hlt
      · exact String.lt_trans hlt (h.1 x hx)
    · split
      · rename_i hk
        subst hk
        simpa only [keys, List.map_cons, List.pairwise_cons] using h
      · rename_i h₁ h₂
        simp only [keys, List.map_cons, List.pairwise_cons]
        refine ⟨?_, ih h.2⟩
        intro x hx
        rcases mem_keys_insert hx with rfl | hx
        · rcases Decidable.em (k < x) with hlt | hlt
          · exact hlt
          · exact absurd (String.le_antisymm (String.not_lt.1 h₁) (String.not_lt.1 hlt)).symm
              (by simpa using h₂)
        · exact h.1 x hx

end Dict

end DataBinding
