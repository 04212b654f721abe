import DynamicSql.Pattern.CaseFold
import DynamicSql.Pattern.Property.FlagTable
import DynamicSql.Text.Blank
import DynamicSql.Text.Letter
import DynamicSql.Text.Quoted

/-!
# Properties that a character has or has not

Some properties of the Unicode standard are listed, the others are derived here from the lists,
from the general category and from the case mappings, as the standard says.

Names are given in lower case and without separators. Main definition: `flag?` finds the
characters with the property of a name.
-/

namespace DynamicSql.Pattern.Property

/-! ## Letters and case -/

/-- White space. -/
def whiteSpace : CharSet := .ofRanges Text.whiteSpace

/-- Letters, letter numbers, and the marks and symbols that count as letters. -/
def alphabetic : CharSet :=
  (ofCategory fun c => c.isLetter || c == .nl).union (known Text.otherAlphabetic)

/-- Capitals. -/
def uppercase : CharSet := (ofCategory (· == .lu)).union otherUppercase

/-- Small letters, and signs that look like them. -/
def lowercase : CharSet :=
  (ofCategory (· == .ll)).union ((known Text.otherCased).diff otherUppercase)

/-- The letters that have a third form for titles. -/
def titlecaseLetter : CharSet := ofCategory (· == .lt)

/-- Characters with case. -/
def cased : CharSet := (uppercase.union lowercase).union titlecaseLetter

/-- Characters that casing looks through. -/
def caseIgnorable : CharSet :=
  (ofCategory fun c => c == .mn || c == .me || c == .cf || c == .lm || c == .sk).union
    (.ofRanges Text.otherCaseIgnorable)

/-- The characters that a case mapping changes: letters of ASCII, and those in its tables. -/
def changed (ascii : CharSet) (runs : List Text.CaseRun) (expansions : List (Nat × List Nat)) :
    CharSet :=
  ascii.union (.ofCodes ((runs.flatMap knownPairs).map (·.1) ++ expansions.map (·.1)))

/-- Characters that upper case changes. -/
def changesWhenUppercased : CharSet :=
  changed (.range 0x61 0x7A) Text.upperRuns Text.upperExpansions

/-- Characters that lower case changes. -/
def changesWhenLowercased : CharSet :=
  changed (.range 0x41 0x5A) Text.lowerRuns Text.lowerExpansions

/-- Characters that some case changes. -/
def changesWhenCasemapped : CharSet := changesWhenUppercased.union changesWhenLowercased

/-- Small letters that stay as they are in titles. -/
def plainInTitles : CharSet := .ofRanges [(0x10D0, 0x10FA), (0x10FD, 0x10FF)]

/-- Capital pairs of letters of which only the first is capital in titles. -/
def capitalPairs : CharSet := .ofCodes [0x1C4, 0x1C7, 0x1CA, 0x1F1]

/-- Characters that the case of titles changes. -/
def changesWhenTitlecased : CharSet :=
  ((changesWhenUppercased.diff titlecaseLetter).diff plainInTitles).union capitalPairs

/-- Capitals that represent both cases, so that folding leaves them. -/
def foldedToCapitals : CharSet := .range 0x13A0 0x13F5

/-- Characters that folding changes and lower case does not. -/
def foldedThoughSmall : CharSet := .ofRanges [
  (0xB5, 0xB5), (0xDF, 0xDF), (0x149, 0x149), (0x17F, 0x17F), (0x345, 0x345), (0x3C2, 0x3C2),
  (0x3D0, 0x3D1), (0x3D5, 0x3D6), (0x3F0, 0x3F1), (0x3F5, 0x3F5), (0x587, 0x587), (0x13F8, 0x13FD),
  (0x1C80, 0x1C88), (0x1E9A, 0x1E9B), (0x1F80, 0x1F87), (0x1F90, 0x1F97), (0x1FA0, 0x1FA7),
  (0x1FB2, 0x1FB4), (0x1FB7, 0x1FB7), (0x1FC2, 0x1FC4), (0x1FC7, 0x1FC7), (0x1FF2, 0x1FF4),
  (0x1FF7, 0x1FF7), (0xAB70, 0xABBF), (0xFB00, 0xFB06), (0xFB13, 0xFB17)]

/-- Characters that folding changes. -/
def changesWhenCasefolded : CharSet :=
  (changesWhenLowercased.diff foldedToCapitals).union foldedThoughSmall

/-! ## Marks and unseen characters -/

/-- Format characters that show. -/
def visibleFormat : CharSet := .ofRanges [(0xFFF9, 0xFFFB), (0x13430, 0x13440)]

/-- Characters that may go unseen. -/
def defaultIgnorable : CharSet :=
  let unseen := ((ofCategory (· == .cf)).union otherDefaultIgnorable).union variationSelector
  ((unseen.diff whiteSpace).diff visibleFormat).diff prependedConcatenationMark

/-- Characters that extend the one before them. -/
def graphemeExtend : CharSet :=
  ((ofCategory fun c => c == .mn || c == .me).union (known Text.otherGraphemeExtend)).union
    halfwidthSoundMark

/-- Characters that stand by themselves. -/
def graphemeBase : CharSet :=
  (ofCategory fun c => !c.isOther && c != .zl && c != .zp).diff graphemeExtend

/-- Code points that never have a character: two at the end of every plane, and a block. -/
def noncharacter : CharSet :=
  .ofRanges ((0xFDD0, 0xFDEF) :: (List.range 17).map fun plane =>
    (plane * 0x10000 + 0xFFFE, plane * 0x10000 + 0xFFFF))

/-! ## Identifiers and mathematics -/

/-- Mathematical characters. -/
def math : CharSet := (ofCategory (· == .sm)).union otherMath

/-- Mathematical signs that may stand inside an identifier. -/
def idCompatMathContinue : CharSet := idCompatMathStart.union mathInsideIdentifier

/-- Characters that may begin an identifier. -/
def idStart : CharSet :=
  (((ofCategory fun c => c.isLetter || c == .nl).union otherIdStart).diff patternSyntax).diff
    patternWhiteSpace

/-- Characters that may stand inside an identifier. -/
def idContinue : CharSet :=
  (idStart.union (ofCategory fun c => c == .mn || c == .mc || c == .nd || c == .pc)).union
    otherIdContinue

/-- Characters whose compatible forms hold something that no identifier holds. -/
def unstableInside : CharSet := .ofRanges [
  (0x37A, 0x37A), (0x309B, 0x309C), (0xFC5E, 0xFC63), (0xFDFA, 0xFDFB), (0xFE70, 0xFE70),
  (0xFE72, 0xFE72), (0xFE74, 0xFE74), (0xFE76, 0xFE76), (0xFE78, 0xFE78), (0xFE7A, 0xFE7A),
  (0xFE7C, 0xFE7C), (0xFE7E, 0xFE7E)]

/-- Characters whose compatible forms begin with something that no identifier begins with. -/
def unstableAtStart : CharSet :=
  unstableInside.union (.ofRanges [(0xE33, 0xE33), (0xEB3, 0xEB3), (0xFF9E, 0xFF9F)])

/-- Characters that may begin an identifier in all compatible forms. -/
def xidStart : CharSet := idStart.diff unstableAtStart

/-- Characters that may stand inside an identifier in all compatible forms. -/
def xidContinue : CharSet := idContinue.diff unstableInside

/-! ## Words -/

/-- The characters of words: letters, marks, decimal digits, connectors, and the two joiners. -/
def word : CharSet :=
  (alphabetic.union (ofCategory fun c => c.isMark || c == .nd || c == .pc)).union joinControl

/-- Decimal digits. -/
def digit : CharSet := ofCategory (· == .nd)

/-! ## Names -/

/-- The properties by their names. -/
def flagNames : List (List String × CharSet) := [
  (["asciihexdigit", "ahex"], asciiHexDigit), (["alphabetic", "alpha"], alphabetic),
  (["bidicontrol", "bidic"], bidiControl), (["caseignorable", "ci"], caseIgnorable),
  (["cased"], cased), (["changeswhencasefolded", "cwcf"], changesWhenCasefolded),
  (["changeswhencasemapped", "cwcm"], changesWhenCasemapped),
  (["changeswhenlowercased", "cwl"], changesWhenLowercased),
  (["changeswhentitlecased", "cwt"], changesWhenTitlecased),
  (["changeswhenuppercased", "cwu"], changesWhenUppercased), (["dash"], dash),
  (["defaultignorablecodepoint", "di"], defaultIgnorable), (["deprecated", "dep"], deprecated),
  (["diacritic", "dia"], diacritic), (["emoji"], emoji),
  (["emojicomponent", "ecomp"], emojiComponent),
  (["emojimodifier", "emod"], emojiModifier), (["emojimodifierbase", "ebase"], emojiModifierBase),
  (["emojipresentation", "epres"], emojiPresentation),
  (["extendedpictographic", "extpict"], extendedPictographic), (["extender", "ext"], extender),
  (["graphemebase", "grbase"], graphemeBase), (["graphemeextend", "grext"], graphemeExtend),
  (["graphemelink", "grlink"], graphemeLink), (["hexdigit", "hex"], hexDigit),
  (["hyphen"], hyphen), (["idcompatmathcontinue"], idCompatMathContinue),
  (["idcompatmathstart"], idCompatMathStart), (["idcontinue", "idc"], idContinue),
  (["idstart", "ids"], idStart), (["idsbinaryoperator", "idsb"], idsBinaryOperator),
  (["idstrinaryoperator", "idst"], idsTrinaryOperator),
  (["idsunaryoperator", "idsu"], idsUnaryOperator), (["ideographic", "ideo"], ideographic),
  (["joincontrol", "joinc"], joinControl),
  (["logicalorderexception", "loe"], logicalOrderException),
  (["lowercase", "lower"], lowercase), (["math"], math),
  (["modifiercombiningmark", "mcm"], modifierCombiningMark),
  (["noncharactercodepoint", "nchar"], noncharacter),
  (["otheralphabetic", "oalpha"], known Text.otherAlphabetic),
  (["otherdefaultignorablecodepoint", "odi"], otherDefaultIgnorable),
  (["othergraphemeextend", "ogrext"], (known Text.otherGraphemeExtend).union halfwidthSoundMark),
  (["otheridcontinue", "oidc"], otherIdContinue), (["otheridstart", "oids"], otherIdStart),
  (["otherlowercase", "olower"], (known Text.otherCased).diff otherUppercase),
  (["othermath", "omath"], otherMath), (["otheruppercase", "oupper"], otherUppercase),
  (["patternsyntax", "patsyn"], patternSyntax), (["patternwhitespace", "patws"], patternWhiteSpace),
  (["prependedconcatenationmark", "pcm"], prependedConcatenationMark),
  (["quotationmark", "qmark"], quotationMark), (["radical"], radical),
  (["regionalindicator", "ri"], regionalIndicator),
  (["sentenceterminal", "sterm"], sentenceTerminal),
  (["softdotted", "sd"], softDotted), (["terminalpunctuation", "term"], terminalPunctuation),
  (["unifiedideograph", "uideo"], unifiedIdeograph), (["uppercase", "upper"], uppercase),
  (["variationselector", "vs"], variationSelector), (["whitespace", "wspace", "space"], whiteSpace),
  (["xidcontinue", "xidc"], xidContinue), (["xidstart", "xids"], xidStart)]

/-- The characters with the property of a name. -/
def flag? (name : String) : Option CharSet := underName? name flagNames

end DynamicSql.Pattern.Property
