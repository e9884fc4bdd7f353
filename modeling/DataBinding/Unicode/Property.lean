import DataBinding.Unicode.Category
import DataBinding.Unicode.Contributory

/-!
# Character properties

The derived properties of characters, each a union of general categories and a short list.

Results:

* `isWhitespace_of_isWhitespace`, `isAlphabetic_of_isAlpha`, `isNumeric_of_isDigit`: the properties
  extend the ASCII classes of `Char`.
-/

namespace DataBinding.Unicode

/-- A space, tab, line end or other blank. -/
def isWhitespace (c : Char) : Bool := whiteSpace.holds c

/-- A letter, a number written as letters, or another alphabetic character. -/
def isAlphabetic (c : Char) : Bool :=
  lowercaseLetter.holds c || uppercaseLetter.holds c || otherLetter.holds c ||
    modifierLetter.holds c || titlecaseLetter.holds c || letterNumber.holds c ||
    otherAlphabetic.holds c

/-- A digit or any other number. -/
def isNumeric (c : Char) : Bool :=
  decimalNumber.holds c || letterNumber.holds c || otherNumber.holds c

/-- Alphabetic or numeric. -/
def isAlphanumeric (c : Char) : Bool := isAlphabetic c || isNumeric c

/-- A letter with case, or a character that counts as one. -/
def isCased (c : Char) : Bool :=
  lowercaseLetter.holds c || uppercaseLetter.holds c || titlecaseLetter.holds c ||
    otherLowercase.holds c || otherUppercase.holds c

/-- A character that casing looks through to find its neighbours. -/
def isCaseIgnorable (c : Char) : Bool :=
  nonspacingMark.holds c || enclosingMark.holds c || format.holds c || modifierLetter.holds c ||
    modifierSymbol.holds c || otherCaseIgnorable.holds c

/-- A character that joins the one before it into one written unit. -/
def isGraphemeExtend (c : Char) : Bool :=
  nonspacingMark.holds c || enclosingMark.holds c || otherGraphemeExtend.holds c

/-- A character that shows when printed: a blank other than the space, a control or format
    character and a code point without a character do not. -/
def isPrintable (c : Char) : Bool :=
  c == ' ' || !(separator.holds c || other.holds c)

/-! ## The ASCII classes -/

/-- The blanks of `Char` are blanks. -/
theorem isWhitespace_of_isWhitespace {c : Char} (h : c.isWhitespace = true) :
    isWhitespace c = true := by
  simp only [Char.isWhitespace, Bool.or_eq_true, decide_eq_true_eq] at h
  rcases h with ((h | h) | h) | h <;> subst h <;> rfl

/-- The digits of `Char` are numeric. -/
theorem isNumeric_of_isDigit {c : Char} (h : c.isDigit = true) : isNumeric c = true := by
  have h' : 48 ≤ c.toNat ∧ c.toNat ≤ 57 := by
    simp only [Char.isDigit, Bool.and_eq_true, decide_eq_true_eq] at h
    exact ⟨h.1, h.2⟩
  have : decimalNumber.holds c = true := CodeSet.contains_of_head (by rfl) h'.1 h'.2
  rw [isNumeric, this]
  rfl

/-- The letters of `Char` are alphabetic. -/
theorem isAlphabetic_of_isAlpha {c : Char} (h : c.isAlpha = true) : isAlphabetic c = true := by
  have h' : (65 ≤ c.toNat ∧ c.toNat ≤ 90) ∨ (97 ≤ c.toNat ∧ c.toNat ≤ 122) := by
    rcases (Bool.or_eq_true _ _).mp h with h | h
    · exact Or.inl (of_decide_eq_true h)
    · have h := (Bool.and_eq_true _ _).mp h
      exact Or.inr ⟨of_decide_eq_true h.1, of_decide_eq_true h.2⟩
  rcases h' with h' | h'
  · have : uppercaseLetter.holds c = true := CodeSet.contains_of_head (by rfl) h'.1 h'.2
    rw [isAlphabetic, this]
    simp only [Bool.or_true, Bool.true_or]
  · have : lowercaseLetter.holds c = true := CodeSet.contains_of_head (by rfl) h'.1 h'.2
    rw [isAlphabetic, this]
    simp only [Bool.true_or]

end DataBinding.Unicode
