import DynamicSql.Pattern.Property.Flag
import DynamicSql.Pattern.Property.Script

/-!
# Properties by which text is broken up

The Unicode standard gives every character a value for each of three kinds of segments: what a
reader takes for one character, words, and sentences. Only the values that some character has are
sets here; the value "other" has none.

Names are given in lower case and without separators. Main definitions: `graphemeBreak?`,
`wordBreak?` and `sentenceBreak?` find the characters with the value of a name.
-/

namespace DynamicSql.Pattern.Property

/-! ## Common parts -/

/-- The set of one code point. -/
def only (code : Nat) : CharSet := .range code code

/-- Carriage return. -/
def carriageReturn : CharSet := only 0x0D

/-- Line feed. -/
def lineFeed : CharSet := only 0x0A

/-- The joiner that makes one emoji of several. -/
def joiner : CharSet := only 0x200D

/-- Full stops. -/
def fullStop : CharSet := .ofRanges [
  (0x2E, 0x2E), (0x2024, 0x2024), (0xFE52, 0xFE52), (0xFF0E, 0xFF0E)]

/-- Format characters. -/
def format : CharSet := ofCategory (· == .cf)

/-- Spacing marks. -/
def spacingMark : CharSet := ofCategory (· == .mc)

/-- The sign that stands before an abbreviation. -/
def abbreviationMark : CharSet := only 0x70F

/-- Digits, decimal separators, and signs that go with digits. -/
def numeric : CharSet :=
  (digit.union (.range 0x66B 0x66C)).union (prependedConcatenationMark.diff abbreviationMark)

/-! ## Characters as readers see them -/

/-- Consonants and signs that go before the next character. -/
def syllablePrefix : CharSet := .ofRanges [
  (0xD4E, 0xD4E), (0x111C2, 0x111C3), (0x113D1, 0x113D1), (0x1193F, 0x1193F), (0x11941, 0x11941),
  (0x11A3A, 0x11A3A), (0x11A84, 0x11A89), (0x11D46, 0x11D46), (0x11F02, 0x11F02)]

/-- Spacing marks that stand by themselves. -/
def unjoinedVowel : CharSet := .ofRanges [
  (0x102B, 0x102C), (0x1038, 0x1038), (0x1062, 0x1064), (0x1067, 0x106D), (0x1083, 0x1083),
  (0x1087, 0x108C), (0x108F, 0x108F), (0x109A, 0x109C), (0x1A61, 0x1A61), (0x1A63, 0x1A64),
  (0xAA7B, 0xAA7B), (0xAA7D, 0xAA7D), (0x11720, 0x11721)]

/-- Characters that join the one before them. -/
def graphemeExtender : CharSet := (graphemeExtend.union emojiModifier).diff joiner

/-- Controls and separators, seen or not. -/
def graphemeControl : CharSet :=
  let controls := ofCategory fun c => c == .zl || c == .zp || c == .cc || c == .cf
  let unseen := (ofCategory (· == .cn)).inter defaultIgnorable
  ((controls.union unseen).diff (.ofCodes [0x0D, 0x0A, 0x200C, 0x200D])).diff
    (prependedConcatenationMark.union graphemeExtender)

/-- Marks that follow a character and take room. -/
def graphemeSpacingMark : CharSet :=
  ((spacingMark.diff graphemeExtender).diff unjoinedVowel).union (.ofCodes [0xE33, 0xEB3])

/-- Syllables of Hangul. -/
def hangulSyllable : CharSet := .range 0xAC00 0xD7A3

/-- Syllables of Hangul without a final consonant: every twenty-eighth. -/
def openSyllable : CharSet := .ofCodes ((List.range 399).map fun i => 0xAC00 + 28 * i)

/-- The values of characters as readers see them. -/
def graphemeBreaks : List (List String × CharSet) := [
  (["control", "cn"], graphemeControl), (["cr"], carriageReturn), (["lf"], lineFeed),
  (["extend", "ex"], graphemeExtender),
  (["prepend", "pp"], prependedConcatenationMark.union syllablePrefix),
  (["spacingmark", "sm"], graphemeSpacingMark), (["regionalindicator", "ri"], regionalIndicator),
  (["zwj"], joiner), (["l"], .ofRanges [(0x1100, 0x115F), (0xA960, 0xA97C)]),
  (["v"], .ofRanges [
    (0x1160, 0x11A7), (0xD7B0, 0xD7C6), (0x16D63, 0x16D63), (0x16D67, 0x16D6A)]),
  (["t"], .ofRanges [(0x11A8, 0x11FF), (0xD7CB, 0xD7FB)]), (["lv"], openSyllable),
  (["lvt"], hangulSyllable.diff openSyllable)]

/-- The characters with a value for characters as readers see them. -/
def graphemeBreak? (name : String) : Option CharSet := underName? name graphemeBreaks

/-! ## Words -/

/-- Letters of scripts that write words without spaces. -/
def unspacedLetter : CharSet := .ofRanges [
  (0xE01, 0xE3A), (0xE40, 0xE4E), (0xE81, 0xE82), (0xE84, 0xE84), (0xE86, 0xE8A), (0xE8C, 0xEA3),
  (0xEA5, 0xEA5), (0xEA7, 0xEBD), (0xEC0, 0xEC4), (0xEC6, 0xEC6), (0xEC8, 0xECE), (0xEDC, 0xEDF),
  (0x1000, 0x103F), (0x1050, 0x108F), (0x109A, 0x109F), (0x1780, 0x17D3), (0x17D7, 0x17D7),
  (0x17DC, 0x17DD), (0x1950, 0x196D), (0x1970, 0x1974), (0x1980, 0x19AB), (0x19B0, 0x19C9),
  (0x19DA, 0x19DA), (0x19DE, 0x19DF), (0x1A20, 0x1A5E), (0x1A60, 0x1A7C), (0x1AA0, 0x1AAD),
  (0xA9E0, 0xA9EF), (0xA9FA, 0xA9FE), (0xAA60, 0xAAC2), (0xAADB, 0xAADF), (0x11700, 0x1171A),
  (0x1171D, 0x1172B), (0x1173A, 0x1173B), (0x1173F, 0x11746)]

/-- Characters that count as letters inside words only. -/
def letterlike : CharSet := .ofRanges [
  (0x2C2, 0x2C5), (0x2D2, 0x2D7), (0x2DE, 0x2DF), (0x2E5, 0x2EB), (0x2ED, 0x2ED), (0x2EF, 0x2FF),
  (0x55A, 0x55C), (0x55E, 0x55E), (0x58A, 0x58A), (0x5F3, 0x5F3), (0x70F, 0x70F), (0xA708, 0xA716),
  (0xA720, 0xA721), (0xA789, 0xA78A), (0xAB5B, 0xAB5B)]

/-- Marks and modifiers that belong to the character before them. -/
def wordExtender : CharSet :=
  ((graphemeExtend.union spacingMark).union emojiModifier).diff joiner

/-- Letters of Katakana, and signs that go with them. -/
def katakana : CharSet :=
  ((script? "katakana").getD .none).union (.ofRanges [
    (0x3031, 0x3035), (0x309B, 0x309C), (0x30A0, 0x30A0), (0x30FC, 0x30FC), (0xFF70, 0xFF70)])

/-- Letters of Hebrew. -/
def hebrewLetter : CharSet :=
  ((script? "hebrew").getD .none).inter (ofCategory (· == .lo))

/-- Letters of words that are written with spaces between them. -/
def wordLetter : CharSet :=
  let others := [ideographic, katakana, unspacedLetter, (script? "hiragana").getD .none,
    wordExtender, hebrewLetter]
  others.foldl CharSet.diff (alphabetic.union letterlike)

/-- Format characters inside words. -/
def wordFormat : CharSet :=
  ((format.diff (.ofCodes [0x200B, 0x200C, 0x200D])).diff prependedConcatenationMark).diff
    wordExtender

/-- The values for words. -/
def wordBreaks : List (List String × CharSet) := [
  (["cr"], carriageReturn), (["lf"], lineFeed),
  (["newline", "nl"], .ofRanges [(0x0B, 0x0C), (0x85, 0x85), (0x2028, 0x2029)]),
  (["doublequote", "dq"], only 0x22), (["singlequote", "sq"], only 0x27),
  (["midletter", "ml"], .ofCodes [
    0x3A, 0xB7, 0x387, 0x55F, 0x5F4, 0x2027, 0xFE13, 0xFE55, 0xFF1A]),
  (["midnum", "mn"], .ofCodes [
    0x2C, 0x3B, 0x37E, 0x589, 0x60C, 0x60D, 0x66C, 0x7F8, 0x2044, 0xFE50, 0xFE54, 0xFF0C,
    0xFF1B]),
  (["midnumlet", "mb"], .ofCodes [0x2E, 0x2018, 0x2019, 0x2024, 0xFE52, 0xFF07, 0xFF0E]),
  (["regionalindicator", "ri"], regionalIndicator), (["zwj"], joiner),
  (["wsegspace"], (ofCategory (· == .zs)).diff (.ofCodes [0xA0, 0x2007, 0x202F])),
  (["extend"], wordExtender), (["format", "fo"], wordFormat), (["katakana", "ka"], katakana),
  (["hebrewletter", "hl"], hebrewLetter), (["aletter", "le"], wordLetter),
  (["numeric", "nu"], numeric.diff (only 0x66C)),
  (["extendnumlet", "ex"], (ofCategory (· == .pc)).union (only 0x202F))]

/-- The characters with a value for words. -/
def wordBreak? (name : String) : Option CharSet := underName? name wordBreaks

/-! ## Sentences -/

/-- Quotation marks and ornaments that may close a sentence. -/
def quoting : CharSet := .ofRanges [
  (0x22, 0x22), (0x27, 0x27), (0xAB, 0xAB), (0xBB, 0xBB), (0x2018, 0x2019), (0x201B, 0x201D),
  (0x201F, 0x201F), (0x2039, 0x203A), (0x275B, 0x2760), (0x2E00, 0x2E0D), (0x2E1C, 0x2E1D),
  (0x2E20, 0x2E21), (0x1F676, 0x1F678)]

/-- Punctuation after which a sentence goes on. -/
def sentenceInner : CharSet := .ofRanges [
  (0x2C, 0x2D), (0x3A, 0x3B), (0x37E, 0x37E), (0x55D, 0x55D), (0x60C, 0x60D), (0x7F8, 0x7F8),
  (0x1802, 0x1802), (0x1808, 0x1808), (0x2013, 0x2014), (0x3001, 0x3001), (0xFE10, 0xFE11),
  (0xFE13, 0xFE14), (0xFE31, 0xFE32), (0xFE50, 0xFE51), (0xFE54, 0xFE55), (0xFE58, 0xFE58),
  (0xFE63, 0xFE63), (0xFF0C, 0xFF0D), (0xFF1A, 0xFF1B), (0xFF64, 0xFF64)]

/-- Marks that belong to the character before them. -/
def sentenceExtender : CharSet := (graphemeExtend.union spacingMark).union joiner

/-- Format characters inside sentences. -/
def sentenceFormat : CharSet :=
  ((format.diff (.range 0x200C 0x200D)).diff sentenceExtender).diff
    (prependedConcatenationMark.diff abbreviationMark)

/-- Small letters. -/
def sentenceLower : CharSet :=
  (lowercase.diff graphemeExtend).diff plainInTitles

/-- Capitals that may begin a sentence. -/
def sentenceUpper : CharSet :=
  (uppercase.union titlecaseLetter).diff (.ofRanges [(0x1C90, 0x1CBA), (0x1CBD, 0x1CBF)])

/-- The values for sentences. -/
def sentenceBreaks : List (List String × CharSet) := [
  (["cr"], carriageReturn), (["lf"], lineFeed),
  (["sep", "se"], .ofCodes [0x85, 0x2028, 0x2029]), (["extend", "ex"], sentenceExtender),
  (["format", "fo"], sentenceFormat),
  (["sp"], whiteSpace.diff (.ofCodes [0x85, 0x2028, 0x2029, 0x0D, 0x0A])),
  (["lower", "lo"], sentenceLower), (["upper", "up"], sentenceUpper),
  (["oletter", "le"],
    [sentenceLower, sentenceUpper, sentenceExtender].foldl CharSet.diff
      (alphabetic.union (only 0x5F3))),
  (["numeric", "nu"], numeric), (["aterm", "at"], fullStop),
  (["sterm", "st"], sentenceTerminal.diff fullStop),
  (["close", "cl"],
    (((ofCategory fun c => c == .ps || c == .pe).union quoting).diff fullStop).diff
      sentenceTerminal),
  (["scontinue", "sc"], sentenceInner)]

/-- The characters with a value for sentences. -/
def sentenceBreak? (name : String) : Option CharSet := underName? name sentenceBreaks

end DynamicSql.Pattern.Property
