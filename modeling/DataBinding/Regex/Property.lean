import DataBinding.Unicode.Break
import DataBinding.Unicode.ScriptExtension

/-!
# Sets of characters by name

The sets that patterns name: classes of one letter, bracketed ASCII classes and Unicode properties.
Property names compare loosely: case, spaces, hyphens, underscores and a leading `is` do not count.

Results:

* `looseChars_append`: the loose form is taken character by character.
-/

namespace DataBinding.Regex

open Unicode (CodeSet)

/-- The loose form of a property name. Characters outside ASCII are dropped. -/
def looseChars (cs : List Char) : List Char :=
  (cs.filter fun c => c != ' ' && c != '_' && c != '-' && decide (c.toNat < 0x80)).map Char.toLower

/-- The loose form is taken character by character. -/
theorem looseChars_append (xs ys : List Char) :
    looseChars (xs ++ ys) = looseChars xs ++ looseChars ys := by
  simp [looseChars]

/-- The loose form of a property name. The name `isc` stands for itself. -/
def looseName (name : List Char) : String :=
  match name with
  | i :: s :: rest =>
    if i.toLower = 'i' ∧ s.toLower = 's' then
      let loose := looseChars rest
      String.ofList (if loose = ['c'] then ['i', 's', 'c'] else loose)
    else String.ofList (looseChars name)
  | _ => String.ofList (looseChars name)

/-- Properties that a character has or has not, each under its loose long name and its short name. -/
def binaryProperties : List (String × String × CodeSet) := [
  ("alphabetic", "alpha", Unicode.Known.alphabetic),
  ("lowercase", "lower", Unicode.Known.lowercase),
  ("uppercase", "upper", Unicode.Known.uppercase), ("cased", "cased", Unicode.Known.cased),
  ("caseignorable", "ci", Unicode.Known.caseIgnorable),
  ("changeswhenlowercased", "cwl", Unicode.Known.changesInLower),
  ("changeswhenuppercased", "cwu", Unicode.Known.changesInUpper),
  ("changeswhentitlecased", "cwt", Unicode.Known.changesInTitle),
  ("changeswhencasefolded", "cwcf", Unicode.Known.changesInFold),
  ("changeswhencasemapped", "cwcm", Unicode.Known.changesInCase),
  ("graphemeextend", "grext", Unicode.Known.graphemeExtend),
  ("graphemebase", "grbase", Unicode.Known.graphemeBase),
  ("graphemelink", "grlink", Unicode.graphemeLink),
  ("whitespace", "wspace", Unicode.whiteSpace), ("whitespace", "space", Unicode.whiteSpace),
  ("joincontrol", "joinc", Unicode.joinControl),
  ("bidicontrol", "bidic", Unicode.bidiControl), ("dash", "dash", Unicode.dash),
  ("defaultignorablecodepoint", "di", Unicode.defaultIgnorable),
  ("deprecated", "dep", Unicode.deprecated), ("diacritic", "dia", Unicode.diacritic),
  ("emoji", "emoji", Unicode.emoji), ("emojicomponent", "ecomp", Unicode.emojiComponent),
  ("emojimodifier", "emod", Unicode.emojiModifier),
  ("emojimodifierbase", "ebase", Unicode.emojiModifierBase),
  ("emojipresentation", "epres", Unicode.emojiPresentation),
  ("extendedpictographic", "extpict", Unicode.pictographic),
  ("extender", "ext", Unicode.extender), ("hyphen", "hyphen", Unicode.hyphen),
  ("idsunaryoperator", "idsu", Unicode.ideographSingle),
  ("idsbinaryoperator", "idsb", Unicode.ideographPair),
  ("idstrinaryoperator", "idst", Unicode.ideographTriple),
  ("ideographic", "ideo", Unicode.ideographic),
  ("logicalorderexception", "loe", Unicode.logicalOrderException),
  ("math", "math", Unicode.mathematical),
  ("modifiercombiningmark", "mcm", Unicode.modifierMark),
  ("noncharactercodepoint", "nchar", Unicode.noncharacter),
  ("patternsyntax", "patsyn", Unicode.patternSyntax),
  ("patternwhitespace", "patws", Unicode.patternBlank),
  ("prependedconcatenationmark", "pcm", Unicode.prependedMark),
  ("quotationmark", "qmark", Unicode.quotationMark), ("radical", "radical", Unicode.radical),
  ("regionalindicator", "ri", Unicode.regionalIndicator),
  ("sentenceterminal", "sterm", Unicode.sentenceTerminal),
  ("softdotted", "sd", Unicode.softDotted),
  ("terminalpunctuation", "term", Unicode.terminalPunctuation),
  ("unifiedideograph", "uideo", Unicode.unifiedIdeograph),
  ("variationselector", "vs", Unicode.variationSelector),
  ("idstart", "ids", Unicode.identifierStart), ("idcontinue", "idc", Unicode.identifierPart),
  ("xidstart", "xids", Unicode.stableIdentifierStart),
  ("xidcontinue", "xidc", Unicode.stableIdentifierPart),
  ("idcompatmathstart", "idcompatmathstart", Unicode.mathStart),
  ("idcompatmathcontinue", "idcompatmathcontinue", Unicode.mathStart.union Unicode.mathPart),
  ("otheralphabetic", "oalpha", Unicode.otherAlphabetic.known),
  ("otherlowercase", "olower", Unicode.otherLowercase.known),
  ("otheruppercase", "oupper", Unicode.otherUppercase),
  ("othermath", "omath", Unicode.otherMathematical),
  ("othergraphemeextend", "ogrext", Unicode.otherGraphemeExtend.known),
  ("otherdefaultignorablecodepoint", "odi", Unicode.otherIgnorable),
  ("otheridstart", "oids", Unicode.otherIdentifierStart),
  ("otheridcontinue", "oidc", Unicode.otherIdentifierPart),
  ("asciihexdigit", "ahex", ⟨[(0x30, 0x39), (0x41, 0x46), (0x61, 0x66)]⟩),
  ("hexdigit", "hex", ⟨[(0x30, 0x39), (0x41, 0x46), (0x61, 0x66), (0xFF10, 0xFF19),
    (0xFF21, 0xFF26), (0xFF41, 0xFF46)]⟩)]

/-- Names of other properties that also name a category. As a name alone they mean the category. -/
def categoryFirst : List String := ["cf", "sc", "lc"]

/-- The set of a property named alone: a property of characters, a general category or a script. -/
def propertySet? (name : List Char) : Option CodeSet :=
  let name := looseName name
  let category := Unicode.Known.category? name
  let script := Unicode.script? name
  if name ∈ categoryFirst then category <|> script
  else CodeSet.named? binaryProperties name <|> category <|> script

/-- The characters of all editions up to the one of a loose name. -/
def editionSet? (name : String) : Option CodeSet :=
  match Unicode.editions.findIdx? fun (number, short, _) => number == name || short == name with
  | none => none
  | some i => some (.unions ((Unicode.editions.take (i + 1)).map fun (_, _, s) => s))

/-- The properties with named values: their loose names, and the set of a loose name of a value. -/
def valuedProperties : List (String × String × (String → Option CodeSet)) := [
  ("generalcategory", "gc", Unicode.Known.category?), ("script", "sc", Unicode.script?),
  ("scriptextensions", "scx", Unicode.scriptExtension?), ("age", "age", editionSet?),
  ("graphemeclusterbreak", "gcb", CodeSet.named? Unicode.clusterBreaks),
  ("wordbreak", "wb", CodeSet.named? Unicode.wordBreaks),
  ("sentencebreak", "sb", CodeSet.named? Unicode.sentenceBreaks)]

/-- The set of the characters with a value of a property. -/
def propertyValueSet? (name value : List Char) : Option CodeSet :=
  let name := looseName name
  match valuedProperties.find? fun (long, short, _) => long == name || short == name with
  | some (_, _, set?) => set? (looseName value)
  | none => none

/-- A class of one letter. -/
inductive LetterClass where
  | digit
  | space
  | word
  deriving DecidableEq, Repr

/-- The class of a lower-case letter. -/
def LetterClass.ofChar? (c : Char) : Option LetterClass :=
  [('d', digit), ('s', space), ('w', word)].lookup c

/-- The set of a class, in all scripts or in ASCII. -/
def LetterClass.set (unicode : Bool) : LetterClass → CodeSet
  | digit => if unicode then Unicode.Known.decimalNumber else ⟨[(0x30, 0x39)]⟩
  | space => if unicode then Unicode.whiteSpace else ⟨[(0x09, 0x0D), (0x20, 0x20)]⟩
  | word =>
    if unicode then Unicode.Known.wordCharacters
    else ⟨[(0x30, 0x39), (0x41, 0x5A), (0x5F, 0x5F), (0x61, 0x7A)]⟩

/-- The bracketed classes. -/
def asciiClasses : List (String × CodeSet) := [
  ("alnum", ⟨[(0x30, 0x39), (0x41, 0x5A), (0x61, 0x7A)]⟩),
  ("alpha", ⟨[(0x41, 0x5A), (0x61, 0x7A)]⟩), ("ascii", ⟨[(0x00, 0x7F)]⟩),
  ("blank", ⟨[(0x09, 0x09), (0x20, 0x20)]⟩), ("cntrl", ⟨[(0x00, 0x1F), (0x7F, 0x7F)]⟩),
  ("digit", ⟨[(0x30, 0x39)]⟩), ("graph", ⟨[(0x21, 0x7E)]⟩), ("lower", ⟨[(0x61, 0x7A)]⟩),
  ("print", ⟨[(0x20, 0x7E)]⟩),
  ("punct", ⟨[(0x21, 0x2F), (0x3A, 0x40), (0x5B, 0x60), (0x7B, 0x7E)]⟩),
  ("space", ⟨[(0x09, 0x0D), (0x20, 0x20)]⟩), ("upper", ⟨[(0x41, 0x5A)]⟩),
  ("word", ⟨[(0x30, 0x39), (0x41, 0x5A), (0x5F, 0x5F), (0x61, 0x7A)]⟩),
  ("xdigit", ⟨[(0x30, 0x39), (0x41, 0x46), (0x61, 0x66)]⟩)]

end DataBinding.Regex
