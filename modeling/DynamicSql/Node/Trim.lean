import DynamicSql.Text.Blank

/-!
# Trimming clauses

A clause such as `WHERE` or `SET` is built from optional parts, each of which brings a connective
of its own. When the parts have been joined, the first of a list of overrides that leads the text
is removed and the lead of the clause put in its place; likewise at the end. Overrides are
compared without regard to ASCII case. A blank text stays empty, without lead and tail.
-/

namespace DynamicSql

/-- How the ends of a text are trimmed. -/
structure TrimRule where
  /-- What is put before the text, and a space. -/
  lead : Option Text := none
  /-- What is put after the text, behind a space. -/
  tail : Option Text := none
  /-- What is removed from the start of the text, in upper case. -/
  leadOverrides : List Text := []
  /-- What is removed from the end of the text, in upper case. -/
  tailOverrides : List Text := []
  deriving DecidableEq

/-- Overrides as they are compared: in upper case, and none empty. -/
def normalizeOverrides (overrides : List Text) : List Text :=
  (overrides.map Text.upperAscii).filter (!·.isEmpty)

/-- The overrides of a list separated by bars. -/
def parseOverrides (s : Text) : List Text := normalizeOverrides (s.splitOn '|')

namespace TrimRule

/-- The `WHERE` clause: a leading `AND` or `OR` is removed. -/
def whereClause : TrimRule where
  lead := some "WHERE".toList
  leadOverrides := ["AND ".toList, "OR ".toList, "AND\n".toList, "OR\n".toList, "AND\r".toList,
    "OR\r".toList, "AND\t".toList, "OR\t".toList]

/-- The `SET` clause: leading and trailing commas are removed. -/
def setClause : TrimRule where
  lead := some "SET".toList
  leadOverrides := [[',']]
  tailOverrides := [[',']]

/-- The text without the first override that leads it; `upper` is the text in upper case. -/
def dropLead (overrides : List Text) (upper s : Text) : Text :=
  match overrides.find? (·.isPrefixOf upper) with
  | some matched => s.drop matched.length
  | none => s

/-- The text behind a lead. -/
def addLead (lead : Option Text) (s : Text) : Text :=
  match lead with
  | some lead => lead ++ ' ' :: s
  | none => s

/-- What of an override ends a text: all of it, or else what is left of it without white space. -/
def endingOf? (upper override : Text) : Option Text :=
  let trimmed := Text.trim override
  if override.isSuffixOf upper then some override
  else if !trimmed.isEmpty && trimmed.isSuffixOf upper then some trimmed
  else none

/-- The text without its last `count` bytes; unchanged if a character would be divided. -/
def dropBytes (count : Nat) (s : Text) : Text :=
  (go count s.reverse).elim s List.reverse
where
  /-- Drops `count` bytes from the start, if characters end there. -/
  go : Nat → Text → Option Text
    | 0, s => some s
    | _ + 1, [] => some []
    | count + 1, c :: rest =>
      if c.utf8Size ≤ count + 1 then go (count + 1 - c.utf8Size) rest else none

/-- The text without the first override that ends it. The clause is searched in upper case as it
was before its start was trimmed, and as many bytes are cut off as were found. -/
def dropTail (overrides : List Text) (upper s : Text) : Text :=
  match overrides.findSome? (endingOf? upper) with
  | some ending => dropBytes (Text.utf8Length ending) s
  | none => s

/-- The text before a tail. -/
def addTail (tail : Option Text) (s : Text) : Text :=
  match tail with
  | some tail => s ++ ' ' :: tail
  | none => s

/-- The text with its ends trimmed. -/
def apply (rule : TrimRule) (body : Text) : Text :=
  let s := Text.trim body
  if s.isEmpty then []
  else
    let upper := Text.upperAscii s
    let started := addLead rule.lead (dropLead rule.leadOverrides upper s)
    addTail rule.tail (dropTail rule.tailOverrides upper started)

end TrimRule

end DynamicSql
