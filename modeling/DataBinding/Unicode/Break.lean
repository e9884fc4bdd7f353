import DataBinding.Unicode.Trait
import DataBinding.Unicode.Script

/-!
# Characters around the ends of clusters, words and sentences

A character has one value each for the ends of clusters, words and sentences, as patterns know it. The
values follow from categories, traits and scripts, and from lists of single characters.

Results:

* `hangulPairs_length`: there are as many pairs of a first and a middle Hangul letter as their numbers
  say.
-/

namespace DataBinding.Unicode

/-- The set of one code point. -/
private def one (c : Nat) : CodeSet := ⟨[(c, c)]⟩

/-- The set of the listed code points. -/
private def these (cs : List Nat) : CodeSet := .ofRanges (cs.map fun c => (c, c))

/-! ## Hangul -/

/-- The Hangul letters that start a syllable. -/
def hangulFirst : CodeSet := ⟨[(0x1100, 0x115F), (0xA960, 0xA97C)]⟩

/-- The vowels of syllables written in parts. -/
def syllableVowel : CodeSet :=
  ⟨[(0x1160, 0x11A7), (0xD7B0, 0xD7C6), (0x16D63, 0x16D63), (0x16D67, 0x16D6A)]⟩

/-- The Hangul letters that end a syllable. -/
def hangulLast : CodeSet := ⟨[(0x11A8, 0x11FF), (0xD7CB, 0xD7FB)]⟩

/-- The Hangul syllables. -/
def hangulSyllables : CodeSet := ⟨[(0xAC00, 0xD7A3)]⟩

/-- The Hangul syllables without a last letter: every 28th. -/
def hangulPairs : CodeSet :=
  ⟨(List.range 399).map fun i => (0xAC00 + 28 * i, 0xAC00 + 28 * i)⟩

/-- There are as many pairs as 19 first letters and 21 vowels make. -/
theorem hangulPairs_length : hangulPairs.ranges.length = 19 * 21 := by
  simp only [hangulPairs, List.length_map, List.length_range]

/-! ## Clusters -/

/-- Characters that belong to the cluster after them. -/
def clusterPrepended : CodeSet :=
  .union prependedMark ⟨[
    (0xD4E, 0xD4E), (0x111C2, 0x111C3), (0x113D1, 0x113D1), (0x1193F, 0x1193F), (0x11941, 0x11941),
    (0x11A3A, 0x11A3A), (0x11A84, 0x11A89), (0x11D46, 0x11D46), (0x11F02, 0x11F02)]⟩

/-- Characters that belong to the cluster before them and take no space of their own. -/
def clusterExtend : CodeSet := Known.graphemeExtend.union emojiModifier

/-- Characters that belong to the cluster before them and take space. -/
def clusterSpacing : CodeSet :=
  (Known.spacingMark.union ⟨[(0xE33, 0xE33), (0xEB3, 0xEB3)]⟩).diff <|
    clusterExtend.union ⟨[
      (0x102B, 0x102C), (0x1038, 0x1038), (0x1062, 0x1064), (0x1067, 0x106D), (0x1083, 0x1083),
      (0x1087, 0x108C), (0x108F, 0x108F), (0x109A, 0x109C), (0x1A61, 0x1A61), (0x1A63, 0x1A64),
      (0xAA7B, 0xAA7B), (0xAA7D, 0xAA7D), (0x11720, 0x11721)]⟩

/-- Controls, line ends and the like, which stand alone. -/
def clusterControl : CodeSet :=
  .diff
    (.unions [control, lineSeparator, paragraphSeparator, Known.format,
      Known.unassigned.inter defaultIgnorable])
    (.unions [⟨[(0x0A, 0x0A), (0x0D, 0x0D), (0x200C, 0x200D)]⟩, clusterPrepended, clusterExtend])

/-- The values for clusters, each under its loose names. -/
def clusterBreaks : List (String × String × CodeSet) := [
  ("control", "cn", clusterControl), ("cr", "cr", one 0x0D), ("extend", "ex", clusterExtend),
  ("l", "l", hangulFirst), ("lf", "lf", one 0x0A), ("lv", "lv", hangulPairs),
  ("lvt", "lvt", hangulSyllables.diff hangulPairs), ("prepend", "pp", clusterPrepended),
  ("regionalindicator", "ri", regionalIndicator), ("spacingmark", "sm", clusterSpacing),
  ("t", "t", hangulLast), ("v", "v", syllableVowel), ("zwj", "zwj", one 0x200D)]

/-! ## Words -/

/-- Characters that belong to the word before them. -/
def wordExtend : CodeSet := .unions [Known.graphemeExtend, Known.spacingMark, emojiModifier]

/-- Format characters inside words. -/
def wordFormat : CodeSet :=
  Known.format.diff (.unions [⟨[(0x200B, 0x200D)]⟩, prependedMark, wordExtend])

/-- Katakana letters and what goes with them. -/
def wordKatakana : CodeSet :=
  .diff
    (scriptKatakana.union
      ⟨[(0x3031, 0x3035), (0x309B, 0x309C), (0x30A0, 0x30A0), (0x30FC, 0x30FC), (0xFF70, 0xFF70)]⟩)
    wordExtend

/-- Hebrew letters. -/
def wordHebrew : CodeSet := scriptHebrew.inter Known.otherLetter

/-- The characters of scripts that write words without blanks between them. -/
def unspacedScripts : CodeSet :=
  .unions [scriptThai, scriptLao, scriptMyanmar, scriptKhmer, scriptTaiLe, scriptNewTaiLue,
    scriptTaiTham, scriptTaiViet, scriptAhom]

/-- Letters of words. -/
def wordLetter : CodeSet :=
  .diff
    (.union
      (Known.alphabetic.diff (.unions [ideographic, unspacedScripts, scriptHiragana]))
      ⟨[(0x2C2, 0x2C5), (0x2D2, 0x2D7), (0x2DE, 0x2DF), (0x2E5, 0x2EB), (0x2ED, 0x2ED),
        (0x2EF, 0x2FF), (0x55A, 0x55C), (0x55E, 0x55E), (0x58A, 0x58A), (0x5F3, 0x5F3),
        (0x70F, 0x70F), (0xA708, 0xA716), (0xA720, 0xA721), (0xA789, 0xA78A), (0xAB5B, 0xAB5B)]⟩)
    (.unions [wordKatakana, wordExtend, wordHebrew])

/-- Digits of words, with the marks that stand before numbers. -/
def wordNumber : CodeSet :=
  .diff (.unions [Known.decimalNumber, one 0x66B, prependedMark]) (one 0x70F)

/-- The values for words, each under its loose names. -/
def wordBreaks : List (String × String × CodeSet) := [
  ("aletter", "le", wordLetter), ("cr", "cr", one 0x0D), ("doublequote", "dq", one 0x22),
  ("extend", "extend", wordExtend), ("extendnumlet", "ex", connectorPunctuation.union (one 0x202F)),
  ("format", "fo", wordFormat), ("hebrewletter", "hl", wordHebrew),
  ("katakana", "ka", wordKatakana), ("lf", "lf", one 0x0A),
  ("midletter", "ml",
    these [0x3A, 0xB7, 0x387, 0x55F, 0x5F4, 0x2027, 0xFE13, 0xFE55, 0xFF1A]),
  ("midnum", "mn",
    these [0x2C, 0x3B, 0x37E, 0x589, 0x60C, 0x60D, 0x66C, 0x7F8, 0x2044, 0xFE10, 0xFE14, 0xFE50,
      0xFE54, 0xFF0C, 0xFF1B]),
  ("midnumlet", "mb", these [0x2E, 0x2018, 0x2019, 0x2024, 0xFE52, 0xFF07, 0xFF0E]),
  ("newline", "nl", these [0x0B, 0x0C, 0x85, 0x2028, 0x2029]), ("numeric", "nu", wordNumber),
  ("regionalindicator", "ri", regionalIndicator), ("singlequote", "sq", one 0x27),
  ("wsegspace", "wsegspace",
    ⟨[(0x20, 0x20), (0x1680, 0x1680), (0x2000, 0x2006), (0x2008, 0x200A), (0x205F, 0x205F),
      (0x3000, 0x3000)]⟩),
  ("zwj", "zwj", one 0x200D)]

/-! ## Sentences -/

/-- Characters that belong to the sentence part before them. -/
def sentenceExtend : CodeSet := .unions [Known.graphemeExtend, Known.spacingMark, one 0x200D]

/-- Lower-case letters. -/
def sentenceLower : CodeSet :=
  Known.lowercase.diff (Known.graphemeExtend.union ⟨[(0x10D0, 0x10FA), (0x10FD, 0x10FF)]⟩)

/-- Upper-case letters. -/
def sentenceUpper : CodeSet :=
  (titlecaseLetter.union Known.uppercase).diff ⟨[(0x1C90, 0x1CBA), (0x1CBD, 0x1CBF)]⟩

/-- Letters without case. -/
def sentenceLetter : CodeSet :=
  (Known.alphabetic.union (one 0x5F3)).diff
    (.unions [sentenceLower, sentenceUpper, sentenceExtend])

/-- Points that may end a sentence. -/
def sentencePoint : CodeSet := these [0x2E, 0x2024, 0xFE52, 0xFF0E]

/-- Marks that end a sentence, points apart. -/
def sentenceEnd : CodeSet := sentenceTerminal.diff sentencePoint

/-- Brackets and quotation marks. -/
def sentenceClose : CodeSet :=
  .diff
    (.unions [CodeSet.known (.unions [openPunctuation, closePunctuation, initialPunctuation,
        finalPunctuation]),
      ⟨[(0x22, 0x22), (0x27, 0x27), (0x275B, 0x2760), (0x2E00, 0x2E01), (0x2E06, 0x2E08),
        (0x2E0B, 0x2E0B), (0x1F676, 0x1F678)]⟩])
    (sentencePoint.union sentenceEnd)

/-- The values for sentences, each under its loose names. -/
def sentenceBreaks : List (String × String × CodeSet) := [
  ("aterm", "at", sentencePoint), ("close", "cl", sentenceClose), ("cr", "cr", one 0x0D),
  ("extend", "ex", sentenceExtend),
  ("format", "fo", Known.format.diff (sentenceExtend.union ⟨[(0x200C, 0x200D)]⟩)),
  ("lf", "lf", one 0x0A), ("lower", "lo", sentenceLower),
  ("numeric", "nu", Known.decimalNumber.union (these [0x66B, 0x66C])),
  ("oletter", "le", sentenceLetter),
  ("scontinue", "sc",
    these [0x2C, 0x2D, 0x3A, 0x3B, 0x37E, 0x55D, 0x60C, 0x60D, 0x7F8, 0x1802, 0x1808, 0x2013, 0x2014,
      0x3001, 0xFE10, 0xFE11, 0xFE13, 0xFE14, 0xFE31, 0xFE32, 0xFE50, 0xFE51, 0xFE54, 0xFE55, 0xFE58,
      0xFE63, 0xFF0C, 0xFF0D, 0xFF1A, 0xFF1B, 0xFF64]),
  ("sep", "se", these [0x85, 0x2028, 0x2029]),
  ("sp", "sp", whiteSpace.diff (these [0x0A, 0x0D, 0x85, 0x2028, 0x2029])),
  ("sterm", "st", sentenceEnd), ("upper", "up", sentenceUpper)]

end DataBinding.Unicode
