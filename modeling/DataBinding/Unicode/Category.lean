import DataBinding.Unicode.CodeSet
import DataBinding.Unicode.Category.Letter
import DataBinding.Unicode.Category.Mark
import DataBinding.Unicode.Category.Number
import DataBinding.Unicode.Category.Punctuation
import DataBinding.Unicode.Category.Symbol
import DataBinding.Unicode.Category.Other

/-!
# General categories by name

The unions of general categories, and the table of categories under their loose names: lower case with
spaces, hyphens and underscores removed.
-/

namespace DataBinding.Unicode

/-- The letters with case, `LC`. -/
def casedLetter : CodeSet := .unions [uppercaseLetter, lowercaseLetter, titlecaseLetter]

/-- All letters, `L`. -/
def letter : CodeSet := .unions [casedLetter, modifierLetter, otherLetter]

/-- All marks, `M`. -/
def mark : CodeSet := .unions [nonspacingMark, spacingMark, enclosingMark]

/-- All numbers, `N`. -/
def number : CodeSet := .unions [decimalNumber, letterNumber, otherNumber]

/-- All punctuation, `P`. -/
def punctuation : CodeSet :=
  .unions [connectorPunctuation, dashPunctuation, openPunctuation, closePunctuation,
    initialPunctuation, finalPunctuation, otherPunctuation]

/-- All symbols, `S`. -/
def symbol : CodeSet := .unions [mathSymbol, currencySymbol, modifierSymbol, otherSymbol]

/-- All separators, `Z`. -/
def separator : CodeSet := .unions [spaceSeparator, lineSeparator, paragraphSeparator]

/-- The code points with any other assigned category. -/
private def namedOther : CodeSet := .unions [control, format, surrogate, privateUse]

/-- The code points that stand for no character, `Cn`. -/
def unassigned : CodeSet :=
  (CodeSet.unions [letter, mark, number, punctuation, symbol, separator, namedOther]).complement

/-- Everything that is no letter, mark, number, punctuation, symbol or separator, `C`. -/
def other : CodeSet := .unions [namedOther, unassigned]

/-- General categories and their unions that hold assigned code points only, each under its loose long
    name and its short code. -/
def categories : List (String × String × CodeSet) := [
  ("uppercaseletter", "lu", uppercaseLetter), ("lowercaseletter", "ll", lowercaseLetter),
  ("titlecaseletter", "lt", titlecaseLetter), ("casedletter", "lc", casedLetter),
  ("modifierletter", "lm", modifierLetter), ("otherletter", "lo", otherLetter),
  ("letter", "l", letter), ("nonspacingmark", "mn", nonspacingMark),
  ("spacingmark", "mc", spacingMark), ("enclosingmark", "me", enclosingMark),
  ("mark", "m", mark), ("combiningmark", "m", mark), ("decimalnumber", "nd", decimalNumber),
  ("digit", "nd", decimalNumber), ("letternumber", "nl", letterNumber),
  ("othernumber", "no", otherNumber), ("number", "n", number),
  ("connectorpunctuation", "pc", connectorPunctuation), ("dashpunctuation", "pd", dashPunctuation),
  ("openpunctuation", "ps", openPunctuation), ("closepunctuation", "pe", closePunctuation),
  ("initialpunctuation", "pi", initialPunctuation), ("finalpunctuation", "pf", finalPunctuation),
  ("otherpunctuation", "po", otherPunctuation), ("punctuation", "p", punctuation),
  ("punct", "p", punctuation), ("mathsymbol", "sm", mathSymbol),
  ("currencysymbol", "sc", currencySymbol), ("modifiersymbol", "sk", modifierSymbol),
  ("othersymbol", "so", otherSymbol), ("symbol", "s", symbol),
  ("spaceseparator", "zs", spaceSeparator), ("lineseparator", "zl", lineSeparator),
  ("paragraphseparator", "zp", paragraphSeparator), ("separator", "z", separator),
  ("control", "cc", control), ("cntrl", "cc", control), ("format", "cf", format),
  ("privateuse", "co", privateUse), ("assigned", "assigned", unassigned.complement),
  ("ascii", "ascii", ⟨[(0, 0x7F)]⟩)]

end DataBinding.Unicode
