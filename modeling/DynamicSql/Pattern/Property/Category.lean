import DynamicSql.Pattern.CharSet
import DynamicSql.Text.Category

/-!
# Characters by general category

Patterns know the characters of edition 16.0 of the Unicode standard. Texts know those of edition
17.0, which added the characters of `laterRanges` and counts one letter otherwise; so the
categories of a pattern are those of the table of texts with these two amendments.

Main definitions: `ofCategory` gathers the characters whose category is accepted, and
`generalCategory?` finds the category, or group of categories, of a name.
-/

namespace DynamicSql.Pattern.Property

open DynamicSql.Text (Category)

/-! ## The edition -/

/-- The code points that have a character only after edition 16.0. -/
def laterRanges : List (Nat × Nat) := [
  (0x88F, 0x88F), (0xC5C, 0xC5C), (0xCDC, 0xCDC), (0x1ACF, 0x1ADD), (0x1AE0, 0x1AEB),
  (0x20C1, 0x20C1), (0x2B96, 0x2B96), (0xA7CE, 0xA7CF), (0xA7D2, 0xA7D2), (0xA7D4, 0xA7D4),
  (0xA7F1, 0xA7F1), (0xFBC3, 0xFBD2), (0xFD90, 0xFD91), (0xFDC8, 0xFDCE), (0x10940, 0x10959),
  (0x10EC5, 0x10EC7), (0x10ED0, 0x10ED8), (0x10EFA, 0x10EFB), (0x11B60, 0x11B67),
  (0x11DB0, 0x11DDB), (0x11DE0, 0x11DE9), (0x16EA0, 0x16EB8), (0x16EBB, 0x16ED3),
  (0x16FF2, 0x16FF6), (0x187F8, 0x187FF), (0x18D09, 0x18D1E), (0x18D80, 0x18DF2),
  (0x1CCFA, 0x1CCFC), (0x1CEBA, 0x1CED0), (0x1CEE0, 0x1CEF0), (0x1E6C0, 0x1E6DE),
  (0x1E6E0, 0x1E6F5), (0x1E6FE, 0x1E6FF), (0x1F6D8, 0x1F6D8), (0x1F777, 0x1F77A),
  (0x1F8D0, 0x1F8D8), (0x1FA54, 0x1FA57), (0x1FA8A, 0x1FA8A), (0x1FA8E, 0x1FA8E),
  (0x1FAC8, 0x1FAC8), (0x1FACD, 0x1FACD), (0x1FAEA, 0x1FAEA), (0x1FAEF, 0x1FAEF),
  (0x1FBFA, 0x1FBFA), (0x2B73A, 0x2B73F), (0x2CEA2, 0x2CEAD), (0x323B0, 0x33479)]

/-- The characters that patterns do not know. -/
def later : CharSet := .ofRanges laterRanges

/-- The characters of a table of texts that patterns know. -/
def known (ranges : List (Nat × Nat)) : CharSet := (CharSet.ofRanges ranges).diff later

/-- The letter that was a small letter up to edition 16.0 and is one without case since. -/
def pharyngealFricative : Nat := 0x295

/-! ## Sets of characters -/

/-- The ranges of the runs whose category is accepted; each run ends where the next one starts. -/
def acceptedRanges (accepts : Category → Bool) : List (Nat × Category) → List (Nat × Nat)
  | [] => []
  | (start, category) :: rest =>
    let stop :=
      match rest with
      | [] => CharSet.lastCode + 1
      | (next, _) :: _ => next
    if accepts category then (start, stop - 1) :: acceptedRanges accepts rest
    else acceptedRanges accepts rest

/-- The characters whose general category is accepted. -/
def ofCategory (accepts : Category → Bool) : CharSet :=
  let listed := CharSet.ofRanges (acceptedRanges accepts Text.categoryRuns)
  let amended := if accepts .cn then listed.union later else listed.diff later
  let letter := CharSet.range pharyngealFricative pharyngealFricative
  (if accepts .ll then amended.union letter else amended.diff letter).inter .any

/-! ## Names -/

/-- The general categories and groups of them by their names, in lower case and without
separators. Surrogates are no characters, so their category has no name. -/
def categoryNames : List (List String × (Category → Bool)) := [
  (["l", "letter"], (·.isLetter)), (["lc", "casedletter"], (·.isCased)),
  (["lu", "uppercaseletter"], (· == .lu)), (["ll", "lowercaseletter"], (· == .ll)),
  (["lt", "titlecaseletter"], (· == .lt)), (["lm", "modifierletter"], (· == .lm)),
  (["lo", "otherletter"], (· == .lo)),
  (["m", "mark", "combiningmark"], (·.isMark)), (["mn", "nonspacingmark"], (· == .mn)),
  (["mc", "spacingmark"], (· == .mc)), (["me", "enclosingmark"], (· == .me)),
  (["n", "number"], (·.isNumeral)), (["nd", "decimalnumber", "digit"], (· == .nd)),
  (["nl", "letternumber"], (· == .nl)), (["no", "othernumber"], (· == .no)),
  (["p", "punctuation", "punct"], (·.isPunctuation)),
  (["pc", "connectorpunctuation"], (· == .pc)), (["pd", "dashpunctuation"], (· == .pd)),
  (["ps", "openpunctuation"], (· == .ps)), (["pe", "closepunctuation"], (· == .pe)),
  (["pi", "initialpunctuation"], (· == .pi)), (["pf", "finalpunctuation"], (· == .pf)),
  (["po", "otherpunctuation"], (· == .po)),
  (["s", "symbol"], (·.isSymbol)), (["sm", "mathsymbol"], (· == .sm)),
  (["sc", "currencysymbol"], (· == .sc)), (["sk", "modifiersymbol"], (· == .sk)),
  (["so", "othersymbol"], (· == .so)),
  (["z", "separator"], (·.isSeparator)), (["zs", "spaceseparator"], (· == .zs)),
  (["zl", "lineseparator"], (· == .zl)), (["zp", "paragraphseparator"], (· == .zp)),
  (["c", "other"], (·.isOther)), (["cc", "control", "cntrl"], (· == .cc)),
  (["cf", "format"], (· == .cf)), (["co", "privateuse"], (· == .co)),
  (["cn", "unassigned"], (· == .cn)), (["any"], fun _ => true), (["assigned"], (· != .cn))]

/-- What a list holds under a name, where each entry may have several names. -/
def underName? {α : Type} (name : String) (entries : List (List String × α)) : Option α :=
  (entries.find? (·.1.contains name)).map (·.2)

/-- The characters of the general category with a name. -/
def generalCategory? (name : String) : Option CharSet :=
  if name == "ascii" then some .ascii else (underName? name categoryNames).map ofCategory

end DynamicSql.Pattern.Property
