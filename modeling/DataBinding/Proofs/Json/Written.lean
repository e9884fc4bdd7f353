import Mathlib
import DataBinding.Json.Basic
import DataBinding.Proofs.Json.Reading

/-!
# Reading what was written

The texts of a JSON value, without spaces or indented, are read as its form. A quoted string is read
piece by piece, one piece for each character; brackets are read with any blanks around what they hold.
The text of a number is not looked at here: the values are those without numbers.

Results:

* `exists_readString?_quoted`: a quoted string is read as the string.
* `Writes.array`, `Writes.object`: brackets around parts that are read.
* `writes_compact`, `writes_indented`: both texts of a value are read as its form.
-/

namespace DataBinding.Json

/-! ## Quoted strings -/

/-- Puts a piece in front of those that are read. -/
def addPiece (p : Piece) (read : Option (List Piece × List Char)) : Option (List Piece × List Char) :=
  read.map fun (ps, rest) => (p :: ps, rest)

/-- The texts of one piece of a string. -/
inductive WritesPiece : List Char → Piece → Prop
  | escape {e c : Char} (h : simpleEscape? e = some c) : WritesPiece ['\\', e] (.char c)
  | unit {a₁ a₂ a₃ a₄ : Char} {n : Nat} (h : hexUnit? a₁ a₂ a₃ a₄ = some n) :
      WritesPiece ['\\', 'u', a₁, a₂, a₃, a₄] (.unit n)
  | plain {c : Char} (hq : c ≠ '\x22') (hb : c ≠ '\\') (hc : 0x20 ≤ c.toNat) :
      WritesPiece [c] (.char c)

/-- The text of a piece is read as it, and what follows is read on. -/
theorem WritesPiece.read {text : List Char} {p : Piece} (h : WritesPiece text p) (rest : List Char) :
    readString? (text ++ rest) = addPiece p (readString? rest) := by
  cases h with
  | @escape e c h =>
    have hu : e ≠ 'u' := by
      rintro rfl
      cases h
    show readString? ('\\' :: e :: rest) = _
    rw [readString?, h]
    · cases readString? rest <;> rfl
    · rintro _ _ _ _ _ rfl
      exact absurd rfl hu
  | @unit a₁ a₂ a₃ a₄ n h =>
    show readString? ('\\' :: 'u' :: a₁ :: a₂ :: a₃ :: a₄ :: rest) = _
    rw [readString?, h]
    cases readString? rest <;> rfl
  | @plain c hq hb hc =>
    show readString? (c :: rest) = _
    rw [readString?, if_neg hq, if_neg (by simp [hb, hc])]
    · cases readString? rest <;> rfl
    · rintro _ _ _ _ _ rfl
      exact absurd rfl hb
    · rintro _ _ rfl
      exact absurd rfl hb

/-- A control character is two hexadecimal digits. -/
theorem hexUnit?_hexDigit :
    ∀ n < 0x20, hexUnit? '0' '0' (hexDigit (n / 16)) (hexDigit (n % 16)) = some n := by
  decide

/-- A unit that stands alone is a character, whatever follows it. -/
theorem textOfPieces?_unit {n : Nat} (h : n < 0xD800) (ps : List Piece) :
    textOfPieces? (.unit n :: ps) = (textOfPieces? ps).map (Char.ofNat n :: ·) := by
  have hhigh : isHighUnit n = false := decide_eq_false (by omega)
  have hlow : isLowUnit n = false := decide_eq_false (by omega)
  cases ps with
  | nil => simp [textOfPieces?, hhigh, hlow]
  | cons p ps => cases p <;> simp [textOfPieces?, hhigh, hlow]

/-- The written character is the text of one piece, which stands for the character. -/
theorem exists_piece (c : Char) : ∃ p, WritesPiece (quoteChar c) p ∧
    ∀ ps, textOfPieces? (p :: ps) = (textOfPieces? ps).map (c :: ·) := by
  have escaped {e : Char} (h : simpleEscape? e = some c) (hq : quoteChar c = ['\\', e]) :
      ∃ p, WritesPiece (quoteChar c) p ∧
        ∀ ps, textOfPieces? (p :: ps) = (textOfPieces? ps).map (c :: ·) :=
    ⟨.char c, hq ▸ .escape h, fun ps => rfl⟩
  by_cases h₁ : c = '\x22'
  · subst h₁
    exact escaped (e := '\x22') rfl rfl
  by_cases h₂ : c = '\\'
  · subst h₂
    exact escaped (e := '\\') rfl rfl
  by_cases h₃ : c = '\n'
  · subst h₃
    exact escaped (e := 'n') rfl rfl
  by_cases h₄ : c = '\r'
  · subst h₄
    exact escaped (e := 'r') rfl rfl
  by_cases h₅ : c = '\t'
  · subst h₅
    exact escaped (e := 't') rfl rfl
  by_cases h₆ : c = '\x08'
  · subst h₆
    exact escaped (e := 'b') rfl rfl
  by_cases h₇ : c = '\x0c'
  · subst h₇
    exact escaped (e := 'f') rfl rfl
  by_cases h₈ : c.toNat < 0x20
  · refine ⟨.unit c.toNat, ?_, fun ps => ?_⟩
    · simp only [quoteChar, h₁, h₂, h₃, h₄, h₅, h₆, h₇, h₈, ↓reduceIte]
      exact .unit (hexUnit?_hexDigit _ h₈)
    · rw [textOfPieces?_unit (by omega), Char.ofNat_toNat]
  · refine ⟨.char c, ?_, fun ps => rfl⟩
    rw [quoteChar_eq_self h₁ h₂ (by omega)]
    exact .plain h₁ h₂ (by omega)

/-- A quoted string is read as the string. -/
theorem exists_readString?_quoted (cs rest : List Char) : ∃ ps,
    readString? (cs.flatMap quoteChar ++ '\x22' :: rest) = some (ps, rest) ∧
    textOfPieces? ps = some cs := by
  induction cs with
  | nil => exact ⟨[], by simp [readString?], rfl⟩
  | cons c cs ih =>
    obtain ⟨ps, hread, htext⟩ := ih
    obtain ⟨p, hp, hc⟩ := exists_piece c
    refine ⟨p :: ps, ?_, ?_⟩
    · rw [List.flatMap_cons, List.append_assoc, hp.read, hread]
      rfl
    · rw [hc, htext]
      rfl

theorem exists_readString?_quoteChars (s : String) (rest : List Char) : ∃ r ps,
    quoteChars s.toList ++ rest = '\x22' :: r ∧ readString? r = some (ps, rest) ∧
    stringOfPieces? ps = some s := by
  obtain ⟨ps, hread, htext⟩ := exists_readString?_quoted s.toList rest
  refine ⟨_, ps, ?_, hread, ?_⟩
  · rw [quoteChars, List.cons_append, List.append_assoc, List.singleton_append]
  · rw [stringOfPieces?, htext, Option.map_some, String.ofList_toList]

/-! ## Brackets -/

/-- Is the text blank? -/
def IsBlankText (w : List Char) : Prop := ∀ c ∈ w, isBlank c = true

theorem skipBlank_append {w : List Char} (h : IsBlankText w) (cs : List Char) :
    skipBlank (w ++ cs) = skipBlank cs := by
  rw [skipBlank, List.dropWhile_append_of_pos h]
  rfl

theorem skipBlank_cons {c : Char} (h : isBlank c = false) (cs : List Char) :
    skipBlank (c :: cs) = c :: cs := List.dropWhile_cons_of_neg (by simp [h])

/-- The text of a form is read as it with any blanks ahead, and what follows is left. -/
def Writes (text : List Char) (f : Form) : Prop :=
  ∀ w rest, IsBlankText w → Reads (w ++ (text ++ rest)) f rest

/-- The text of a member is read as it with any blanks ahead, and what follows is left. -/
def WritesMember (text : List Char) (m : Option String × Form) : Prop :=
  ∀ w rest, IsBlankText w → ReadsMember (w ++ (text ++ rest)) m rest

/-- The rules by which parts between brackets are read: each part by itself, the parts one after the
    other with commas between them, and the form that is built of them. -/
structure Brackets {α : Type} (opening closing : Char) (ReadsOne : List Char → α → List Char → Prop)
    (ReadsMany : List Char → List α → List Char → Prop) (build : List α → Form) : Prop where
  opening_visible : isBlank opening = false
  closing_visible : isBlank closing = false
  last {cs x r rest} : ReadsOne cs x r → skipBlank r = closing :: rest → ReadsMany cs [x] rest
  cons {cs x r more xs rest} : ReadsOne cs x r → skipBlank r = ',' :: more → ReadsMany more xs rest →
    ReadsMany cs (x :: xs) rest
  empty {cs r rest} : skipBlank cs = opening :: r → skipBlank r = closing :: rest →
    Reads cs (build []) rest
  full {cs r xs rest} : skipBlank cs = opening :: r → ReadsMany r xs rest → Reads cs (build xs) rest

theorem Brackets.array : Brackets '[' ']' Reads ReadsItems .array :=
  ⟨by decide, by decide, .last, .cons, .array_nil, .array⟩

theorem Brackets.object : Brackets '\x7b' '\x7d' ReadsMember ReadsMembers .object :=
  ⟨by decide, by decide, .last, .cons, .object_nil, .object⟩

section Brackets

variable {α : Type} {opening closing : Char} {ReadsOne : List Char → α → List Char → Prop}
  {ReadsMany : List Char → List α → List Char → Prop} {build : List α → Form}
  {w w' : List Char} {parts : List (List Char)} {xs : List α}

theorem Brackets.readsMany (b : Brackets opening closing ReadsOne ReadsMany build)
    (hw : IsBlankText w) (hw' : IsBlankText w')
    (h : List.Forall₂ (fun part x => ∀ w rest, IsBlankText w → ReadsOne (w ++ (part ++ rest)) x rest)
      parts xs)
    (hne : parts ≠ []) (rest : List Char) :
    ReadsMany (w ++ ((',' :: w).intercalate parts ++ (w' ++ closing :: rest))) xs rest := by
  induction h with
  | nil => exact absurd rfl hne
  | @cons part x parts xs hpart h ih =>
    cases h with
    | nil =>
      rw [List.intercalate_singleton]
      refine b.last (hpart w _ hw) ?_
      rw [skipBlank_append hw', skipBlank_cons b.closing_visible]
    | @cons next y parts xs hnext h =>
      rw [List.intercalate_cons_cons, List.append_assoc, List.append_assoc]
      exact b.cons (hpart w _ hw) (skipBlank_cons (by decide) _) (ih (List.cons_ne_nil _ _))

/-- Parts between brackets, with blanks around them, are read as the form that is built of them. -/
theorem Brackets.writes (b : Brackets opening closing ReadsOne ReadsMany build)
    (hw : IsBlankText w) (hw' : IsBlankText w')
    (h : List.Forall₂ (fun part x => ∀ w rest, IsBlankText w → ReadsOne (w ++ (part ++ rest)) x rest)
      parts xs) :
    Writes (opening :: (w ++ ((',' :: w).intercalate parts ++ (w' ++ [closing])))) (build xs) := by
  intro v rest hv
  have hopen (cs : List Char) : skipBlank (v ++ opening :: cs) = opening :: cs := by
    rw [skipBlank_append hv, skipBlank_cons b.opening_visible]
  rw [List.cons_append, List.append_assoc, List.append_assoc, List.append_assoc,
    List.singleton_append]
  rcases eq_or_ne parts [] with rfl | hne
  · cases h
    refine b.empty (hopen _) ?_
    rw [skipBlank_append hw, List.intercalate_nil, List.nil_append, skipBlank_append hw',
      skipBlank_cons b.closing_visible]
  · exact b.full (hopen _) (b.readsMany hw hw' h hne rest)

end Brackets

variable {w w' text : List Char} {parts : List (List Char)} {f : Form} {fs : List Form}
  {ms : List (Option String × Form)}

/-- Parts between brackets, with blanks around them, are read as the elements. -/
theorem Writes.array (hw : IsBlankText w) (hw' : IsBlankText w') (h : List.Forall₂ Writes parts fs) :
    Writes ('[' :: (w ++ ((',' :: w).intercalate parts ++ (w' ++ [']'])))) (.array fs) :=
  Brackets.array.writes hw hw' h

/-- Parts between braces, with blanks around them, are read as the members. -/
theorem Writes.object (hw : IsBlankText w) (hw' : IsBlankText w')
    (h : List.Forall₂ WritesMember parts ms) :
    Writes ('\x7b' :: (w ++ ((',' :: w).intercalate parts ++ (w' ++ ['\x7d'])))) (.object ms) :=
  Brackets.object.writes hw hw' h

theorem Writes.null : Writes "null".toList .null := fun _ _ hw =>
  .null (by rw [skipBlank_append hw]; exact skipBlank_cons (by decide) _)

theorem Writes.bool (b : Bool) : Writes (if b then "true" else "false").toList (.bool b) := by
  intro w rest hw
  cases b with
  | false => exact .false (by rw [skipBlank_append hw]; exact skipBlank_cons (by decide) _)
  | true => exact .true (by rw [skipBlank_append hw]; exact skipBlank_cons (by decide) _)

theorem Writes.string (s : String) : Writes (quoteChars s.toList) (.string (some s)) := by
  intro w rest hw
  obtain ⟨r, ps, hr, hread, hs⟩ := exists_readString?_quoteChars s rest
  rw [← hs]
  refine .string ?_ hread
  rw [skipBlank_append hw, hr]
  exact skipBlank_cons (by decide) _

/-- A quoted name, a colon, blanks and the text of a form. -/
theorem Writes.member (name : String) (hw : IsBlankText w) (h : Writes text f) :
    WritesMember (quoteChars name.toList ++ ':' :: (w ++ text)) (some name, f) := by
  intro v rest hv
  obtain ⟨r, ps, hr, hread, hs⟩ := exists_readString?_quoteChars name (':' :: (w ++ (text ++ rest)))
  refine ⟨r, ps, _, _, ?_, hread, hs, skipBlank_cons (by decide) _, h w rest hw⟩
  rw [skipBlank_append hv, List.append_assoc, List.cons_append, List.append_assoc, hr]
  exact skipBlank_cons (by decide) _

/-! ## Values without numbers -/

mutual

/-- The form that a value is read as. -/
def form : Json → Form
  | null => .null
  | bool b => .bool b
  | number x => .number (some x)
  | string s => .string (some s)
  | array items => .array (itemForms items)
  | object members => .object (memberForms members)

/-- The forms of the elements. -/
def itemForms : List Json → List Form
  | [] => []
  | j :: rest => form j :: itemForms rest

/-- The forms of the members. -/
def memberForms : List (String × Json) → List (Option String × Form)
  | [] => []
  | (name, j) :: rest => (some name, form j) :: memberForms rest

end

mutual

/-- Is there no number in the value? -/
def isNumberFree : Json → Bool
  | number _ => false
  | array items => areNumberFree items
  | object members => membersNumberFree members
  | _ => true

/-- Is there no number in the elements? -/
def areNumberFree : List Json → Bool
  | [] => true
  | j :: rest => isNumberFree j && areNumberFree rest

/-- Is there no number in the members? -/
def membersNumberFree : List (String × Json) → Bool
  | [] => true
  | (_, j) :: rest => isNumberFree j && membersNumberFree rest

end

theorem isBlankText_nil : IsBlankText [] := fun _ hc => absurd hc List.not_mem_nil

mutual

/-- The compact text of a value is read as its form. -/
theorem writes_compact : (j : Json) → j.isNumberFree = true → Writes j.compact.toList j.form
  | null, _ => by
    rw [compact, form]
    exact .null
  | bool b, _ => by
    rw [compact, form]
    exact .bool b
  | string s, _ => by
    rw [compact, form, quote, String.toList_ofList]
    exact .string s
  | array items, h => by
    have hitems := writes_compactItems items (by simpa [isNumberFree] using h)
    rw [compact, form]
    simpa using Writes.array isBlankText_nil isBlankText_nil hitems
  | object members, h => by
    have hmembers := writes_compactMembers members (by simpa [isNumberFree] using h)
    rw [compact, form]
    simpa using Writes.object isBlankText_nil isBlankText_nil hmembers

theorem writes_compactItems : (items : List Json) → areNumberFree items = true →
    List.Forall₂ Writes ((compactItems items).map String.toList) (itemForms items)
  | [], _ => by
    rw [compactItems, itemForms]
    exact .nil
  | j :: rest, h => by
    rw [areNumberFree, Bool.and_eq_true] at h
    rw [compactItems, itemForms]
    exact .cons (writes_compact j h.1) (writes_compactItems rest h.2)

theorem writes_compactMembers : (members : List (String × Json)) → membersNumberFree members = true →
    List.Forall₂ WritesMember ((compactMembers members).map String.toList) (memberForms members)
  | [], _ => by
    rw [compactMembers, memberForms]
    exact .nil
  | (name, j) :: rest, h => by
    rw [membersNumberFree, Bool.and_eq_true] at h
    rw [compactMembers, memberForms]
    refine .cons ?_ (writes_compactMembers rest h.2)
    simpa [quote] using Writes.member name isBlankText_nil (writes_compact j h.1)

end

/-! ## Indented texts -/

/-- A new line and its indentation. -/
def lineStart (depth : Nat) : List Char := '\n' :: List.replicate (2 * depth) ' '

theorem isBlankText_lineStart (depth : Nat) : IsBlankText (lineStart depth) := by
  intro c hc
  rcases List.mem_cons.1 hc with rfl | hc
  · rfl
  · rw [List.eq_of_mem_replicate hc]
    rfl

/-- The parts of a block stand between blanks, which there are none of without parts. -/
theorem exists_toList_block (opening closing : String) (depth : Nat) (parts : List String) :
    ∃ w w', IsBlankText w ∧ IsBlankText w' ∧ (block opening closing depth parts).toList =
      opening.toList ++ (w ++ ((',' :: w).intercalate (parts.map String.toList) ++
        (w' ++ closing.toList))) := by
  cases parts with
  | nil =>
    refine ⟨[], [], isBlankText_nil, isBlankText_nil, ?_⟩
    simp [block]
  | cons part parts =>
    refine ⟨lineStart (depth + 1), lineStart depth, isBlankText_lineStart _, isBlankText_lineStart _, ?_⟩
    simp [block, lineStart]

theorem writes_block_array {parts : List String} (depth : Nat)
    (h : List.Forall₂ Writes (parts.map String.toList) fs) :
    Writes (block "[" "]" depth parts).toList (.array fs) := by
  obtain ⟨w, w', hw, hw', htext⟩ := exists_toList_block "[" "]" depth parts
  rw [htext]
  exact .array hw hw' h

theorem writes_block_object {parts : List String} (depth : Nat)
    (h : List.Forall₂ WritesMember (parts.map String.toList) ms) :
    Writes (block "\x7b" "\x7d" depth parts).toList (.object ms) := by
  obtain ⟨w, w', hw, hw', htext⟩ := exists_toList_block "\x7b" "\x7d" depth parts
  rw [htext]
  exact .object hw hw' h

mutual

/-- The indented text of a value is read as its form. -/
theorem writes_indented (depth : Nat) : (j : Json) → j.isNumberFree = true →
    Writes (indented depth j).toList j.form
  | null, _ => by
    rw [indented, form]
    exact .null
  | bool b, _ => by
    rw [indented, form]
    exact .bool b
  | string s, _ => by
    rw [indented, form, quote, String.toList_ofList]
    exact .string s
  | array items, h => by
    rw [indented, form]
    exact writes_block_array depth
      (writes_indentedItems depth items (by simpa [isNumberFree] using h))
  | object members, h => by
    rw [indented, form]
    exact writes_block_object depth
      (writes_indentedMembers depth members (by simpa [isNumberFree] using h))

theorem writes_indentedItems (depth : Nat) : (items : List Json) → areNumberFree items = true →
    List.Forall₂ Writes ((indentedItems depth items).map String.toList) (itemForms items)
  | [], _ => by
    rw [indentedItems, itemForms]
    exact .nil
  | j :: rest, h => by
    rw [areNumberFree, Bool.and_eq_true] at h
    rw [indentedItems, itemForms]
    exact .cons (writes_indented (depth + 1) j h.1) (writes_indentedItems depth rest h.2)

theorem writes_indentedMembers (depth : Nat) : (members : List (String × Json)) →
    membersNumberFree members = true →
    List.Forall₂ WritesMember ((indentedMembers depth members).map String.toList)
      (memberForms members)
  | [], _ => by
    rw [indentedMembers, memberForms]
    exact .nil
  | (name, j) :: rest, h => by
    rw [membersNumberFree, Bool.and_eq_true] at h
    rw [indentedMembers, memberForms]
    refine .cons ?_ (writes_indentedMembers depth rest h.2)
    have hblank : IsBlankText [' '] := fun c hc => by
      rw [List.mem_singleton.1 hc]
      rfl
    simpa [quote] using Writes.member name hblank (writes_indented (depth + 1) j h.1)

end

/-! ## Whole texts -/

theorem Form.read?_of_writes {s : String} (h : Writes s.toList f) : Form.read? s = some f := by
  have hread := h [] [] isBlankText_nil
  rw [List.nil_append, List.append_nil] at hread
  exact read?_of_reads hread

/-- Both texts of a value without numbers are read as its form. -/
theorem Form.read?_compact {j : Json} (h : j.isNumberFree = true) :
    Form.read? j.compact = some j.form := read?_of_writes (writes_compact j h)

theorem Form.read?_pretty {j : Json} (h : j.isNumberFree = true) :
    Form.read? j.pretty = some j.form := read?_of_writes (writes_indented 0 j h)

end DataBinding.Json
