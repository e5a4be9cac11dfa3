/-
Where text may be broken: the values by which the boundaries of clusters, words and sentences are
told.

A value is put together from general categories and a few more characters, by the definitions of
the standard.
-/
import DocumentModel.Text.Property
import DocumentModel.Text.Script

namespace DocumentModel.Text

def scriptMembers (name : String) : CharSet :=
  ((Script.named? name).map Script.members).getD .empty

namespace ClusterBreak

def carriageReturn : CharSet := .single '\r'

def lineFeed : CharSet := .single '\n'

/-- Consonants that start a syllable. -/
def leadingJamo : CharSet :=
  .ofText "1100-115F A960-A97C"

/-- Vowels within a syllable. -/
def vowelJamo : CharSet :=
  .ofText "1160-11A7 D7B0-D7C6 16D63 16D67-16D6A"

/-- Consonants that end a syllable. -/
def trailingJamo : CharSet :=
  .ofText "11A8-11FF D7CB-D7FB"

/-- Where the syllables of each consonant and vowel start; 27 with a last consonant follow each. -/
def syllableStarts : List Nat :=
  (List.range 399).map fun i => 0xAC00 + 28 * i

/-- Syllables that end in a vowel. -/
def openSyllable : CharSet :=
  .ofRanges (syllableStarts.map fun n => (n, n))

/-- Syllables that end in a consonant. -/
def closedSyllable : CharSet :=
  .ofRanges (syllableStarts.map fun n => (n + 1, n + 27))

def joiner : CharSet := .single '\u200d'

/-- Characters that extend the one before them. -/
def extend : CharSet :=
  Property.graphemeExtend.union Property.emojiModifier

/-- Characters that stand apart from their neighbours. -/
def control : CharSet :=
  (CharSet.unionAll
    [ofCategories [.lineSeparator, .paragraphSeparator, .control, .format],
      Property.defaultIgnorable.diff assigned]).diff
    (.unionAll [Property.graphemeExtend, Property.prependedMark, joiner, carriageReturn, lineFeed])

/-- Letters and signs that join the letter after them. -/
def conjunctLetter : CharSet :=
  .ofText "D4E 111C2-111C3 113D1 1193F 11941 11A3A 11A84-11A89 11D46 11F02"

/-- Characters that belong to the one after them. -/
def prepend : CharSet :=
  Property.prependedMark.union conjunctLetter

/-- Marks that take room and can stand without the character before them. -/
def separateMark : CharSet :=
  .ofText "102B-102C 1038 1062-1064 1067-106D 1083 1087-108C 108F 109A-109C 1A61 1A63-1A64
    AA7B AA7D 11720-11721"

/-- Marks that take room and belong to the character before them. -/
def spacingMark : CharSet :=
  ((Category.spacingMark.members.diff extend).diff separateMark).union (.ofText "E33 EB3")

/-- The values, under their names in lower case without separators. -/
def named : List NamedSet :=
  [⟨["cr"], carriageReturn⟩,
   ⟨["control", "cn"], control⟩,
   ⟨["extend", "ex"], extend⟩,
   ⟨["l"], leadingJamo⟩,
   ⟨["lf"], lineFeed⟩,
   ⟨["lv"], openSyllable⟩,
   ⟨["lvt"], closedSyllable⟩,
   ⟨["prepend", "pp"], prepend⟩,
   ⟨["regionalindicator", "ri"], Property.regionalIndicator⟩,
   ⟨["spacingmark", "sm"], spacingMark⟩,
   ⟨["t"], trailingJamo⟩,
   ⟨["v"], vowelJamo⟩,
   ⟨["zwj"], joiner⟩]

end ClusterBreak

namespace WordBreak

/-- Format characters that matter to words. -/
def joiningFormat : CharSet :=
  .ofText "600-605 6DD 70F 890-891 8E2 200B-200D 110BD 110CD E0020-E007F"

def format : CharSet :=
  Category.format.members.diff joiningFormat

/-- Characters that extend the one before them. -/
def extend : CharSet :=
  .unionAll [Property.graphemeExtend, Category.spacingMark.members, Property.emojiModifier]

def katakana : CharSet :=
  (scriptMembers "katakana").union (.ofText "3031-3035 309B-309C 30A0 30FC FF70")

def hebrewLetter : CharSet :=
  (scriptMembers "hebrew").inter Category.otherLetter.members

/-- Scripts written without spaces between words. -/
def unspacedScripts : List String :=
  ["thai", "lao", "khmer", "myanmar", "taile", "newtailue", "taitham", "taiviet", "ahom"]

/-- Signs that count as letters. -/
def letterSign : CharSet :=
  .ofText "2C2-2C5 2D2-2D7 2DE-2DF 2E5-2EB 2ED 2EF-2FF 55A-55C 55E 58A 5F3 70F A708-A716
    A720-A721 A789-A78A AB5B"

def letter : CharSet :=
  (Property.alphabetic.diff
    (.unionAll ([Property.ideographic, katakana, hebrewLetter, extend,
      scriptMembers "hiragana"] ++ unspacedScripts.map scriptMembers))).union letterSign

/-- Punctuation between letters. -/
def midLetter : CharSet :=
  .ofText "3A B7 387 55F 5F4 2027 FE13 FE55 FF1A"

/-- Punctuation between digits. -/
def midNumber : CharSet :=
  .ofText "2C 3B 37E 589 60C-60D 66C 7F8 2044 FE50 FE54 FF0C FF1B"

/-- Punctuation between letters or between digits. -/
def midLetterOrNumber : CharSet :=
  .ofText "2E 2018-2019 2024 FE52 FF07 FF0E"

/-- Signs that count as digits. -/
def numberSign : CharSet :=
  .ofText "600-605 66B 6DD 890-891 8E2 19DA 110BD 110CD"

def numeric : CharSet :=
  Category.decimalNumber.members.union numberSign

/-- Characters that join words and numbers into one. -/
def extendNumberOrLetter : CharSet :=
  Category.connectorPunctuation.members.union (.single '\u202f')

/-- Line ends beside the carriage return and the line feed. -/
def newline : CharSet :=
  .ofText "B-C 85 2028-2029"

def space : CharSet :=
  Category.spaceSeparator.members.diff (.ofText "A0 2007 202F")

/-- The values, under their names in lower case without separators. -/
def named : List NamedSet :=
  [⟨["aletter", "le"], letter⟩,
   ⟨["cr"], ClusterBreak.carriageReturn⟩,
   ⟨["doublequote", "dq"], .single '"'⟩,
   ⟨["extend"], extend⟩,
   ⟨["extendnumlet", "ex"], extendNumberOrLetter⟩,
   ⟨["format", "fo"], format⟩,
   ⟨["hebrewletter", "hl"], hebrewLetter⟩,
   ⟨["katakana", "ka"], katakana⟩,
   ⟨["lf"], ClusterBreak.lineFeed⟩,
   ⟨["midletter", "ml"], midLetter⟩,
   ⟨["midnum", "mn"], midNumber⟩,
   ⟨["midnumlet", "mb"], midLetterOrNumber⟩,
   ⟨["newline", "nl"], newline⟩,
   ⟨["numeric", "nu"], numeric⟩,
   ⟨["regionalindicator", "ri"], Property.regionalIndicator⟩,
   ⟨["singlequote", "sq"], .single '\''⟩,
   ⟨["wsegspace"], space⟩,
   ⟨["zwj"], ClusterBreak.joiner⟩]

end WordBreak

namespace SentenceBreak

/-- Format characters that matter to sentences. -/
def joiningFormat : CharSet :=
  .ofText "600-605 6DD 890-891 8E2 200C-200D 110BD 110CD E0020-E007F"

def format : CharSet :=
  Category.format.members.diff joiningFormat

/-- Characters that extend the one before them. -/
def extend : CharSet :=
  .unionAll [Property.graphemeExtend, Category.spacingMark.members, ClusterBreak.joiner]

/-- Letters of the Georgian script that have capitals and are not counted as small. -/
def georgianSmall : CharSet :=
  .ofText "10D0-10FA 10FD-10FF"

/-- The capitals of these letters, which are not counted as capitals. -/
def georgianCapital : CharSet :=
  .ofText "1C90-1CBA 1CBD-1CBF"

def lower : CharSet :=
  (Property.lowercase.diff Property.graphemeExtend).diff georgianSmall

def upper : CharSet :=
  (Property.uppercase.union Category.titlecaseLetter.members).diff georgianCapital

/-- Letters that are neither small nor capital. -/
def otherLetter : CharSet :=
  (Property.alphabetic.diff (.unionAll [lower, upper, extend])).union (.single '\u05f3')

def numeric : CharSet :=
  WordBreak.numeric.union (.single '\u066c')

def separator : CharSet :=
  .ofText "85 2028-2029"

def space : CharSet :=
  Property.blank.diff
    (.unionAll [separator, ClusterBreak.carriageReturn, ClusterBreak.lineFeed])

def fullStop : CharSet :=
  .ofText "2E 2024 FE52 FF0E"

/-- Marks that end a sentence wherever they stand. -/
def terminal : CharSet :=
  Property.sentenceTerminal.diff fullStop

/-- Punctuation after which a sentence goes on. -/
def continuation : CharSet :=
  .ofText "2C-2D 3A-3B 37E 55D 60C-60D 7F8 1802 1808 2013-2014 3001 FE10-FE11 FE13-FE14
    FE31-FE32 FE50-FE51 FE54-FE55 FE58 FE63 FF0C-FF0D FF1A-FF1B FF64"

/-- Ornaments and signs that are used as brackets or quotes. -/
def ornament : CharSet :=
  .ofText "275B-2760 2E00-2E01 2E06-2E08 2E0B 1F676-1F678"

def close : CharSet :=
  ((CharSet.unionAll [Property.quotationMark, ornament,
    ofCategories [.openPunctuation, .closePunctuation, .initialPunctuation,
      .finalPunctuation]]).diff (.ofText "FF02 FF07"))

/-- The values, under their names in lower case without separators. -/
def named : List NamedSet :=
  [⟨["aterm", "at"], fullStop⟩,
   ⟨["cr"], ClusterBreak.carriageReturn⟩,
   ⟨["close", "cl"], close⟩,
   ⟨["extend", "ex"], extend⟩,
   ⟨["format", "fo"], format⟩,
   ⟨["lf"], ClusterBreak.lineFeed⟩,
   ⟨["lower", "lo"], lower⟩,
   ⟨["numeric", "nu"], numeric⟩,
   ⟨["oletter", "le"], otherLetter⟩,
   ⟨["scontinue", "sc"], continuation⟩,
   ⟨["sterm", "st"], terminal⟩,
   ⟨["sep", "se"], separator⟩,
   ⟨["sp"], space⟩,
   ⟨["upper", "up"], upper⟩]

end SentenceBreak

end DocumentModel.Text
