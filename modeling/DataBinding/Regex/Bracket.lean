import DataBinding.Regex.Escape

/-!
# Bracketed sets

A bracketed set holds characters, ranges, classes and other bracketed sets. Two sets around `&&` make
what is in both, around `--` what is in the first only, around a double tilde what is in one only; all
three bind alike, from the left. After the opening bracket a caret asks for what is outside, and a
closing bracket there stands for itself.

Results:

* `SetOp.apply_minus_all`: nothing is left when all characters are taken away.
-/

namespace DataBinding.Regex

open Unicode (CodeSet)

/-- An operator between sets. -/
inductive SetOp where
  | both
  | minus
  | one
  deriving DecidableEq, Repr

/-- What the operator makes of two sets. -/
def SetOp.apply (s t : CodeSet) : SetOp → CodeSet
  | both => s.inter t
  | minus => s.diff t
  | one => s.symmDiff t

/-- Nothing is left when all characters are taken away. -/
theorem SetOp.apply_minus_all : SetOp.minus.apply .all .all = .empty := by decide +kernel

/-- A bracketed set under construction. -/
structure SetFrame where
  /-- What is outside is asked for. -/
  negated : Bool
  /-- The set before the last operator, and the operator. -/
  left : Option (CodeSet × SetOp)
  /-- What stands since the last operator. -/
  items : CodeSet
  /-- How deep the sets before the last operator nest. -/
  leftDepth : Nat
  /-- How deep each item since the last operator nests. -/
  itemDepths : List Nat

namespace SetFrame

/-- A set that starts with some characters. -/
def start (negated : Bool) (first : List Char) : SetFrame :=
  ⟨negated, none, .unions (first.map .singleton), 0, first.map fun _ => 0⟩

/-- Adds an item to what stands since the last operator. -/
def add (fr : SetFrame) (s : CodeSet) (depth : Nat) : SetFrame :=
  { fr with items := fr.items.union s, itemDepths := fr.itemDepths ++ [depth] }

/-- How deep the set nests up to here. Several items nest once more than one, and so do the two sides of
    an operator. -/
def depth (fr : SetFrame) : Nat :=
  let items := match fr.itemDepths with
    | [] => 0
    | [d] => d
    | ds => ds.foldl max 0 + 1
  if fr.left.isSome then max fr.leftDepth items + 1 else items

/-- The set up to here, without negation. -/
def total (f : Flags) (fr : SetFrame) : CodeSet :=
  match fr.left with
  | none => fr.items
  | some (s, op) => op.apply (f.folded s) (f.folded fr.items)

/-- The frame after an operator. -/
def operate (f : Flags) (fr : SetFrame) (op : SetOp) : SetFrame :=
  ⟨fr.negated, some (fr.total f, op), .empty, fr.depth, []⟩

/-- The set when its bracket closes. -/
def close (f : Flags) (fr : SetFrame) : CodeSet :=
  let s := f.folded (fr.total f)
  if fr.negated then f.outside s else s

end SetFrame

/-- The set of a class by name between `[:` and `:]`, and what follows it. -/
def asciiClass? (f : Flags) (cs : List Char) : Option (CodeSet × List Char) :=
  match cs with
  | ':' :: rest =>
    let (negated, rest) := match rest with
      | '^' :: more => (true, more)
      | _ => (false, rest)
    let name := rest.takeWhile (· != ':')
    match rest.dropWhile (· != ':') with
    | ':' :: ']' :: more =>
      (asciiClasses.lookup (String.ofList name)).map fun s =>
        (if negated then f.outside (f.folded s) else f.folded s, more)
    | _ => none
  | _ => none

theorem asciiClass?_length {f : Flags} {cs rest : List Char} {s : CodeSet}
    (h : asciiClass? f cs = some (s, rest)) : rest.length < cs.length := by
  unfold asciiClass? at h
  split at h
  · rename_i more
    have key : ∀ {xs ys : List Char}, xs.dropWhile (· != ':') = ':' :: ']' :: ys →
        ys.length < xs.length := by
      intro xs ys hx
      have := (List.dropWhile_suffix (l := xs) (· != ':')).length_le
      simp only [hx, List.length_cons] at this
      omega
    simp only at h
    split at h
    · rename_i more' hd
      obtain ⟨s', -, he⟩ := Option.map_eq_some_iff.1 h
      obtain ⟨-, rfl⟩ := Prod.mk.inj he
      have h₁ := key hd
      have h₂ : ∀ xs : List Char,
          (match xs with | '^' :: more => (true, more) | _ => (false, xs) : Bool × List Char).2.length
            ≤ xs.length := by
        intro xs
        split <;> simp
      have := h₂ more
      simp only [List.length_cons]
      omega
    · simp at h
  · simp at h

/-- One item of a set: a character or an escape, and what follows it. -/
def readSetItem? (f : Flags) (c : Char) (rest : List Char) : Option (Escape × Later rest) :=
  if c = '\\' then (readEscape? f rest).map fun (e, r) => (e, r.later)
  else some (.char c, Later.all rest)

/-- The set of a single item. A condition is none. -/
def Escape.set? (f : Flags) : Escape → Option CodeSet
  | .char c => if f.permits (.singleton c) then some (.singleton c) else none
  | .set s => some s
  | .look _ => none

/-- The set of a range of items. Both ends must be characters, in order. -/
def rangeSet? (f : Flags) : Escape → Escape → Option CodeSet
  | .char lo, .char hi =>
    let s : CodeSet := ⟨[(lo.toNat, hi.toNat)]⟩
    if lo ≤ hi ∧ f.permits s then some s else none
  | _, _ => none

/-- Does the mark after an item make a range of it? Before a closing bracket or another hyphen a
    hyphen does not. -/
def opensRange (f : Flags) (rest : List Char) : Bool :=
  match skipBlank f rest with
  | ']' :: _ | '-' :: _ => false
  | _ => true

/-- An item or a range, and what follows it. -/
def readSetRange? (f : Flags) (c : Char) (rest : List Char) : Option (CodeSet × Later rest) :=
  match readSetItem? f c rest with
  | none => none
  | some (lo, ⟨rest₁, h₁⟩) =>
    match h₂ : skipBlank f rest₁ with
    | [] => none
    | '-' :: rest₂ =>
      if opensRange f rest₂ then
        match h₃ : skipBlank f rest₂ with
        | [] => none
        | d :: rest₃ =>
          match readSetItem? f d rest₃ with
          | none => none
          | some (hi, ⟨rest₄, h₄⟩) =>
            (rangeSet? f lo hi).map fun s => (s, ⟨rest₄, by
              have := skipBlank_length f rest₁
              have := skipBlank_length f rest₂
              simp only [h₂, h₃, List.length_cons] at *
              omega⟩)
      else (lo.set? f).map fun s => (s, ⟨rest₁, h₁⟩)
    | _ => (lo.set? f).map fun s => (s, ⟨rest₁, h₁⟩)

/-- The hyphens at the start of a set, and what follows them. -/
def leadingHyphens (f : Flags) (cs : List Char) : Bool × Later cs :=
  match nextChar? f cs with
  | some ('-', r) => (true, ⟨(leadingHyphens f r.1).2.1,
      Nat.le_trans (leadingHyphens f r.1).2.2 (Nat.le_of_lt r.2)⟩)
  | _ => (false, ⟨skipBlank f cs, skipBlank_length f cs⟩)
termination_by cs.length
decreasing_by all_goals exact r.2

/-- The frame of a set after its opening bracket, and what follows. Nothing may not follow. -/
def openSet? (f : Flags) (cs : List Char) : Option (SetFrame × Later cs) :=
  match h : skipBlank f cs with
  | [] => none
  | '^' :: rest =>
    (start? true rest).map fun (fr, r) => (fr, ⟨r.1, by
      have := skipBlank_length f cs
      have := r.2
      simp only [h, List.length_cons] at *
      omega⟩)
  | c :: rest =>
    (start? false (c :: rest)).map fun (fr, r) => (fr, ⟨r.1, by
      have := skipBlank_length f cs
      have := r.2
      simp only [h, List.length_cons] at *
      omega⟩)
where
  /-- The frame with the hyphens, or the closing bracket, that stand first for themselves. -/
  start? (negated : Bool) (cs : List Char) : Option (SetFrame × Later cs) :=
    match leadingHyphens f cs with
    | (true, r) =>
      if r.1.isEmpty then none else some (.start negated ['-'], r)
    | (false, ⟨']' :: more, h⟩) =>
      if (skipBlank f more).isEmpty then none
      else some (.start negated [']'],
        ⟨more, by simp only [List.length_cons] at h; omega⟩)
    | (false, r) => if r.1.isEmpty then none else some (.start negated [], r)

mutual

/-- The set whose opening bracket stands before `cs`, how deep it nests, and what follows it. -/
def readSet? (f : Flags) (cs : List Char) : Option (CodeSet × Nat × After cs) :=
  match openSet? f cs with
  | none => none
  | some (fr, ⟨rest, h⟩) =>
    match readItems? f fr rest with
    | none => none
    | some (s, d, r) => some (s, d, ⟨r.1, Nat.lt_of_lt_of_le r.2 h⟩)
termination_by (cs.length, 1)
decreasing_by
  rcases Nat.lt_or_eq_of_le h with h | h
  · exact Prod.Lex.left _ _ h
  · rw [h]
    exact Prod.Lex.right _ (by omega)

/-- The rest of a set up to its closing bracket, how deep the set nests, and what follows it. -/
def readItems? (f : Flags) (fr : SetFrame) (cs : List Char) : Option (CodeSet × Nat × After cs) :=
  match nextChar? f cs with
  | none => none
  | some (c, ⟨rest, lt⟩) =>
    let go (fr : SetFrame) (r : Later rest) : Option (CodeSet × Nat × After cs) :=
      match readItems? f fr r.1 with
      | none => none
      | some (s, d, r') => some (s, d, ⟨r'.1, Nat.lt_trans r'.2 (Nat.lt_of_le_of_lt r.2 lt)⟩)
    let second : Option (Later rest) :=
      match rest with
      | d :: more =>
        if d = c then some ⟨more, by simp only [List.length_cons]; omega⟩ else none
      | [] => none
    if c = ']' then some (fr.close f, fr.depth + 1, ⟨rest, lt⟩)
    else if c = '[' then
      match h' : asciiClass? f rest with
      | some (s, more) => go (fr.add s 0) ⟨more, Nat.le_of_lt (asciiClass?_length h')⟩
      | none =>
        match readSet? f rest with
        | none => none
        | some (s, d, r) => go (fr.add s d) r.later
    else
      match (if c = '&' then some SetOp.both else if c = '-' then some SetOp.minus
          else if c = '~' then some SetOp.one else none), second with
      | some op, some r => go (fr.operate f op) r
      | _, _ =>
        match readSetRange? f c rest with
        | none => none
        | some (s, r) => go (fr.add s 0) r
termination_by (cs.length, 0)
decreasing_by
  · exact Prod.Lex.left _ _ (Nat.lt_of_le_of_lt r.2 lt)
  · exact Prod.Lex.left _ _ lt

end

/-- The set of a pattern whose opening bracket stands before `cs`, and how deep it nests. Without Unicode
    classes it must be in ASCII. -/
def readBracket? (f : Flags) (cs : List Char) : Option (CodeSet × Nat × After cs) :=
  match readSet? f cs with
  | some (s, d, r) => if f.permits s then some (s, d, r) else none
  | none => none

end DataBinding.Regex
