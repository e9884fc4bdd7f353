import DataBinding.Unicode.Category
import DataBinding.Unicode.Contributory
import DataBinding.Unicode.CaseTable
import DataBinding.Unicode.Edition

/-!
# Characters as patterns know them

Patterns follow edition 16 of the character database. The code points that edition 17 added are
unassigned to them, and one letter that edition 17 made a letter without case still has case.

Results:

* `contains_edition17_of_ascii`: edition 17 added nothing to ASCII, so patterns know all of it.
-/

namespace DataBinding.Unicode

/-- A set of assigned code points as patterns know it. -/
def CodeSet.known (s : CodeSet) : CodeSet := s.diff edition17

/-- Edition 17 added nothing to ASCII. -/
theorem contains_edition17_of_ascii {c : Nat} (h : c < 0x80) : edition17.contains c = false := by
  refine CodeSet.contains_of_lt_head (show _ = some (0x88F, 0x88F) from rfl) ?_ ?_ <;> omega

namespace Known

/-! ## Categories -/

/-- The letter that edition 17 made a letter without case. -/
def formerLowercase : CodeSet := ⟨[(0x295, 0x295)]⟩

/-- Lowercase letters, `Ll`. -/
def lowercaseLetter : CodeSet := Unicode.lowercaseLetter.known.union formerLowercase

/-- Letters without case, `Lo`. -/
def otherLetter : CodeSet := Unicode.otherLetter.known.diff formerLowercase

/-- The letters with case, `LC`. -/
def casedLetter : CodeSet := Unicode.casedLetter.known.union formerLowercase

/-- All letters, `L`. -/
def letter : CodeSet := Unicode.letter.known

/-- Numbers written as letters, `Nl`. -/
def letterNumber : CodeSet := Unicode.letterNumber.known

/-- Decimal digits, `Nd`. -/
def decimalNumber : CodeSet := Unicode.decimalNumber.known

/-- Marks that take no space of their own, `Mn`. -/
def nonspacingMark : CodeSet := Unicode.nonspacingMark.known

/-- Marks that take space, `Mc`. -/
def spacingMark : CodeSet := Unicode.spacingMark.known

/-- Format characters, `Cf`. -/
def format : CodeSet := Unicode.format.known

/-- The code points that stand for no character, `Cn`. -/
def unassigned : CodeSet := Unicode.unassigned.union edition17

/-- Everything that is no letter, mark, number, punctuation, symbol or separator, `C`. -/
def other : CodeSet := Unicode.other.union edition17

/-- Categories that are not what is known of the category of the same name. -/
def ownCategories : List (String × String × CodeSet) := [
  ("lowercaseletter", "ll", lowercaseLetter), ("casedletter", "lc", casedLetter),
  ("otherletter", "lo", otherLetter), ("unassigned", "cn", unassigned), ("other", "c", other),
  ("any", "any", CodeSet.all)]

/-- The general category, or union of categories, of a loose name. -/
def category? (name : String) : Option CodeSet :=
  CodeSet.named? ownCategories name <|>
    (CodeSet.named? Unicode.categories name).map CodeSet.known

/-! ## Letters, words and marks -/

/-- Letters, numbers written as letters and other alphabetic characters. -/
def alphabetic : CodeSet := .unions [letter, letterNumber, otherAlphabetic.known]

/-- Lower-case characters. -/
def lowercase : CodeSet := lowercaseLetter.union otherLowercase.known

/-- Upper-case characters. -/
def uppercase : CodeSet := CodeSet.known (.union uppercaseLetter otherUppercase)

/-- Characters with case. -/
def cased : CodeSet := .unions [titlecaseLetter, lowercase, uppercase]

/-- Characters that casing looks through. -/
def caseIgnorable : CodeSet :=
  CodeSet.known <| .unions [Unicode.nonspacingMark, enclosingMark, Unicode.format, modifierLetter,
    modifierSymbol, otherCaseIgnorable]

/-- Characters that join the one before them into one written unit. -/
def graphemeExtend : CodeSet :=
  .unions [nonspacingMark, enclosingMark, otherGraphemeExtend.known]

/-- Characters that take a place of their own. -/
def graphemeBase : CodeSet :=
  .complement <| .unions [other, lineSeparator, paragraphSeparator, graphemeExtend]

/-- The characters of words: alphabetic characters, marks, digits, connectors and joiners. -/
def wordCharacters : CodeSet :=
  .unions [alphabetic, nonspacingMark, spacingMark, enclosingMark, decimalNumber,
    connectorPunctuation, joinControl]

/-! ## Characters that change with case -/

/-- The code points that rows or a table of expansions move. -/
def moved (rows : List ShiftRow) (expanded : List (Nat × List Nat)) : CodeSet :=
  .ofRanges <| expanded.map (fun (c, _) => (c, c)) ++ rows.flatMap fun r =>
    (List.range ((r.last - r.first) / r.step + 1)).map fun i =>
      (r.first + i * r.step, r.first + i * r.step)

/-- Characters that change in lower case. -/
def changesInLower : CodeSet := (moved lowerRows expandedLower).known

/-- Characters that change in upper case. The upper case of the two letters taken out came with
    edition 17. -/
def changesInUpper : CodeSet :=
  (moved upperRows expandedUpper).known.diff ⟨[(0xA7D3, 0xA7D3), (0xA7D5, 0xA7D5)]⟩

/-- Characters that change in title case: those that change in upper case, but for digraphs, which have
    a title case of their own, and for letters that only stand in upper case beside others. -/
def changesInTitle : CodeSet :=
  .diff
    (changesInUpper.union ⟨[(0x1C4, 0x1C4), (0x1C7, 0x1C7), (0x1CA, 0x1CA), (0x1F1, 0x1F1)]⟩)
    ⟨[(0x1C5, 0x1C5), (0x1C8, 0x1C8), (0x1CB, 0x1CB), (0x1F2, 0x1F2), (0x10D0, 0x10FA),
      (0x10FD, 0x10FF), (0x1F88, 0x1F8F), (0x1F98, 0x1F9F), (0x1FA8, 0x1FAF), (0x1FBC, 0x1FBC),
      (0x1FCC, 0x1FCC), (0x1FFC, 0x1FFC)]⟩

/-- Characters that change when case is folded, some of them to several characters. -/
def changesInFold : CodeSet :=
  .diff
    ((moved foldRows []).union ⟨[
      (0xDF, 0xDF), (0x130, 0x130), (0x149, 0x149), (0x587, 0x587), (0x1E9A, 0x1E9A),
      (0x1F80, 0x1F87), (0x1F90, 0x1F97), (0x1FA0, 0x1FA7), (0x1FB2, 0x1FB4), (0x1FB7, 0x1FB7),
      (0x1FC2, 0x1FC4), (0x1FC7, 0x1FC7), (0x1FF2, 0x1FF4), (0x1FF7, 0x1FF7), (0xFB00, 0xFB04),
      (0xFB06, 0xFB06), (0xFB13, 0xFB17)]⟩)
    ⟨[(0x1FBE, 0x1FBE), (0x1FD3, 0x1FD3), (0x1FE3, 0x1FE3)]⟩

/-- Characters that change in some case. -/
def changesInCase : CodeSet := .unions [changesInLower, changesInUpper, changesInTitle]

end Known

end DataBinding.Unicode
