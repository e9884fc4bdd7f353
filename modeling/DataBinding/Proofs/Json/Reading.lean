import DataBinding.Json.Form

/-!
# Rules of the JSON reader

The reader keeps with every rest the proof that it is shorter. Without the proofs its cases are
equations, and each of them is a rule about which form is read from a text and which rest is left.

Results:

* `bare_readForm?`, `bare_readItems?`, `bare_readMembers?`: the cases of the reader.
* `Reads.array`, `Reads.object`: elements and members in brackets.
* `ReadsItems.cons`, `ReadsMembers.cons`: one element or member before others.
* `Form.read?_of_reads`: the form of a whole text.
-/

namespace DataBinding.Json

/-- A form is read, and `rest` is left. -/
def Reads (cs : List Char) (f : Form) (rest : List Char) : Prop :=
  ∃ h, readForm? cs = some (f, ⟨rest, h⟩)

/-- Elements are read up to the closing bracket, and `rest` is left. -/
def ReadsItems (cs : List Char) (fs : List Form) (rest : List Char) : Prop :=
  ∃ h, readItems? cs = some (fs, ⟨rest, h⟩)

/-- Members are read up to the closing brace, and `rest` is left. -/
def ReadsMembers (cs : List Char) (ms : List (Option String × Form)) (rest : List Char) : Prop :=
  ∃ h, readMembers? cs = some (ms, ⟨rest, h⟩)

/-- A name, a colon and a form are read, and `rest` is left. -/
def ReadsMember (cs : List Char) (m : Option String × Form) (rest : List Char) : Prop :=
  ∃ r ps r₁ r₂, skipBlank cs = '\x22' :: r ∧ readString? r = some (ps, r₁) ∧
    stringOfPieces? ps = m.1 ∧ skipBlank r₁ = ':' :: r₂ ∧ Reads r₂ m.2 rest

/-! ## The cases of the reader -/

/-- What is read, without the proof that the rest is shorter. -/
def bare {α : Type} {cs : List Char} (read : Option (α × Rest cs)) : Option (α × List Char) :=
  read.map fun (x, rest) => (x, rest.1)

theorem bare_eq_some_iff {α : Type} {cs rest : List Char} {read : Option (α × Rest cs)} {x : α} :
    bare read = some (x, rest) ↔ ∃ h, read = some (x, ⟨rest, h⟩) := by
  constructor
  · intro h
    obtain ⟨⟨x', rest', hlt⟩, hread, he⟩ := Option.map_eq_some_iff.1 h
    cases he
    exact ⟨hlt, hread⟩
  · rintro ⟨hlt, rfl⟩
    rfl

theorem bare_readForm? (cs : List Char) : bare (readForm? cs) =
    match skipBlank cs with
    | '[' :: rest =>
      match skipBlank rest with
      | ']' :: more => some (.array [], more)
      | _ => (bare (readItems? rest)).map (Prod.map .array id)
    | '\x7b' :: rest =>
      match skipBlank rest with
      | '\x7d' :: more => some (.object [], more)
      | _ => (bare (readMembers? rest)).map (Prod.map .object id)
    | '\x22' :: rest => (readString? rest).map (Prod.map (.string ∘ stringOfPieces?) id)
    | 'n' :: 'u' :: 'l' :: 'l' :: rest => some (.null, rest)
    | 't' :: 'r' :: 'u' :: 'e' :: rest => some (.bool true, rest)
    | 'f' :: 'a' :: 'l' :: 's' :: 'e' :: rest => some (.bool false, rest)
    | other => (readNumber? other).map (Prod.map (.number ·.value?) id) := by
  rw [readForm?]
  split
  case h_1 h | h_2 h =>
    simp only [h]
    split
    · rename_i h'
      simp only [h']
      rfl
    · split <;> simp [bare, *]
  case h_3 h =>
    simp only [h]
    split <;> simp [bare, *]
  case h_4 h | h_5 h | h_6 h =>
    simp only [h]
    rfl
  case h_7 => split <;> simp [bare, *]

theorem bare_readItems? (cs : List Char) : bare (readItems? cs) =
    (bare (readForm? cs)).bind fun (item, rest) =>
      match skipBlank rest with
      | ']' :: more => some ([item], more)
      | ',' :: more => (bare (readItems? more)).map (Prod.map (item :: ·) id)
      | _ => none := by
  rw [readItems?]
  cases readForm? cs with
  | none => rfl
  | some read =>
    dsimp only [bare, Option.map_some, Option.bind_some]
    split
    · simp [*]
    · split <;> simp [*]
    · simp [*]

theorem bare_readMembers? (cs : List Char) : bare (readMembers? cs) =
    match skipBlank cs with
    | '\x22' :: rest => (readString? rest).bind fun (ps, rest₁) =>
      match skipBlank rest₁ with
      | ':' :: rest₂ => (bare (readForm? rest₂)).bind fun (item, rest₃) =>
        match skipBlank rest₃ with
        | '\x7d' :: more => some ([(stringOfPieces? ps, item)], more)
        | ',' :: more =>
          (bare (readMembers? more)).map (Prod.map ((stringOfPieces? ps, item) :: ·) id)
        | _ => none
      | _ => none
    | _ => none := by
  rw [readMembers?]
  split
  · rename_i h
    simp only [h]
    split
    · simp [bare, *]
    · rename_i h₁
      simp only [h₁, Option.bind_some]
      split
      · rename_i h₂
        simp only [h₂]
        cases readForm? _ with
        | none => rfl
        | some read =>
          dsimp only [bare, Option.map_some, Option.bind_some]
          split
          · simp [*]
          · split <;> simp [*]
          · simp [*]
      · simp [bare, *]
  · simp [bare, *]

variable {cs r rest more : List Char} {f : Form} {fs : List Form} {m : Option String × Form}
  {ms : List (Option String × Form)} {ps : List Piece}

theorem reads_iff : Reads cs f rest ↔ bare (readForm? cs) = some (f, rest) :=
  bare_eq_some_iff.symm

theorem readsItems_iff : ReadsItems cs fs rest ↔ bare (readItems? cs) = some (fs, rest) :=
  bare_eq_some_iff.symm

theorem readsMembers_iff : ReadsMembers cs ms rest ↔ bare (readMembers? cs) = some (ms, rest) :=
  bare_eq_some_iff.symm

/-! ## Elements -/

theorem ReadsItems.last (h : Reads cs f r) (h' : skipBlank r = ']' :: more) :
    ReadsItems cs [f] more := by
  rw [readsItems_iff, bare_readItems?, reads_iff.1 h, Option.bind_some]
  dsimp only
  rw [h']
  rfl

theorem ReadsItems.cons (h : Reads cs f r) (h' : skipBlank r = ',' :: more)
    (hs : ReadsItems more fs rest) : ReadsItems cs (f :: fs) rest := by
  rw [readsItems_iff, bare_readItems?, reads_iff.1 h, Option.bind_some]
  dsimp only
  rw [h']
  show (bare (readItems? more)).map _ = _
  rw [readsItems_iff.1 hs]
  rfl

/-! ## Members -/

/-- After a member the reader looks for the closing brace or a comma. -/
theorem bare_readMembers?_of_member (h : ReadsMember cs m r) : bare (readMembers? cs) =
    match skipBlank r with
    | '\x7d' :: more => some ([m], more)
    | ',' :: more => (bare (readMembers? more)).map (Prod.map (m :: ·) id)
    | _ => none := by
  obtain ⟨r₀, ps, r₁, r₂, h₀, h₁, hname, h₂, h₃⟩ := h
  rw [bare_readMembers?, h₀]
  show (readString? r₀).bind _ = _
  rw [h₁, Option.bind_some]
  dsimp only
  rw [h₂]
  show (bare (readForm? r₂)).bind _ = _
  rw [reads_iff.1 h₃, Option.bind_some, hname]

theorem ReadsMembers.last (h : ReadsMember cs m r) (h' : skipBlank r = '\x7d' :: rest) :
    ReadsMembers cs [m] rest := by
  rw [readsMembers_iff, bare_readMembers?_of_member h, h']
  rfl

theorem ReadsMembers.cons (h : ReadsMember cs m r) (h' : skipBlank r = ',' :: more)
    (hs : ReadsMembers more ms rest) : ReadsMembers cs (m :: ms) rest := by
  rw [readsMembers_iff, bare_readMembers?_of_member h, h']
  show (bare (readMembers? more)).map _ = _
  rw [readsMembers_iff.1 hs]
  rfl

/-! ## Values -/

theorem Reads.null (h : skipBlank cs = 'n' :: 'u' :: 'l' :: 'l' :: rest) : Reads cs .null rest := by
  rw [reads_iff, bare_readForm?, h]
  rfl

theorem Reads.true (h : skipBlank cs = 't' :: 'r' :: 'u' :: 'e' :: rest) :
    Reads cs (.bool true) rest := by
  rw [reads_iff, bare_readForm?, h]
  rfl

theorem Reads.false (h : skipBlank cs = 'f' :: 'a' :: 'l' :: 's' :: 'e' :: rest) :
    Reads cs (.bool false) rest := by
  rw [reads_iff, bare_readForm?, h]
  rfl

theorem Reads.string (h : skipBlank cs = '\x22' :: r) (h' : readString? r = some (ps, rest)) :
    Reads cs (.string (stringOfPieces? ps)) rest := by
  rw [reads_iff, bare_readForm?, h]
  show (readString? r).map _ = _
  rw [h']
  rfl

/-- Behind an opening bracket stands the closing one, or elements do. -/
theorem bare_readForm?_array (h : skipBlank cs = '[' :: r) : bare (readForm? cs) =
    match skipBlank r with
    | ']' :: more => some (.array [], more)
    | _ => (bare (readItems? r)).map (Prod.map .array id) := by
  rw [bare_readForm?, h]
  rfl

/-- Behind an opening brace stands the closing one, or members do. -/
theorem bare_readForm?_object (h : skipBlank cs = '\x7b' :: r) : bare (readForm? cs) =
    match skipBlank r with
    | '\x7d' :: more => some (.object [], more)
    | _ => (bare (readMembers? r)).map (Prod.map .object id) := by
  rw [bare_readForm?, h]
  rfl

/-- No form starts with a closing bracket. -/
theorem bare_readForm?_eq_none (h : skipBlank cs = ']' :: r) : bare (readForm? cs) = none := by
  rw [bare_readForm?, h]
  rfl

theorem Reads.array_nil (h : skipBlank cs = '[' :: r) (h' : skipBlank r = ']' :: rest) :
    Reads cs (.array []) rest := by
  rw [reads_iff, bare_readForm?_array h, h']
  rfl

theorem Reads.array (h : skipBlank cs = '[' :: r) (hs : ReadsItems r fs rest) :
    Reads cs (.array fs) rest := by
  have hitems := readsItems_iff.1 hs
  rw [reads_iff, bare_readForm?_array h]
  split
  · rename_i h'
    rw [bare_readItems?, bare_readForm?_eq_none h'] at hitems
    cases hitems
  · rw [hitems]
    rfl

theorem Reads.object_nil (h : skipBlank cs = '\x7b' :: r) (h' : skipBlank r = '\x7d' :: rest) :
    Reads cs (.object []) rest := by
  rw [reads_iff, bare_readForm?_object h, h']
  rfl

theorem Reads.object (h : skipBlank cs = '\x7b' :: r) (hs : ReadsMembers r ms rest) :
    Reads cs (.object ms) rest := by
  have hmembers := readsMembers_iff.1 hs
  rw [reads_iff, bare_readForm?_object h]
  split
  · rename_i h'
    rw [bare_readMembers?, h'] at hmembers
    cases hmembers
  · rw [hmembers]
    rfl

/-- The form of a whole text. -/
theorem Form.read?_of_reads {s : String} (h : Reads s.toList f []) : Form.read? s = some f := by
  obtain ⟨hlt, hf⟩ := h
  rw [Form.read?, hf]
  rfl

end DataBinding.Json
