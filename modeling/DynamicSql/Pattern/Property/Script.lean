import DynamicSql.Pattern.CharSet
import DynamicSql.Pattern.Property.ScriptTable

/-!
# Scripts

Every character belongs to one script of the Unicode standard, and some are used with further
ones, so a script has characters of its own and borrows others. Characters at home in no script
count as the script "common", those that take on the script before them as "inherited"; in the
wider sense they do so only as long as no script borrows them.
-/

namespace DynamicSql.Pattern.Property

/-- The script of a name. -/
def findScript? (name : String) : Option Script := scripts.find? (·.names.contains name)

/-- The characters of a script. -/
def script? (name : String) : Option CharSet := (findScript? name).map fun s => .ofRanges s.own

/-- Whether a script is one of those for characters at home in none. -/
def Script.isShared (s : Script) : Bool :=
  s.names.contains "common" || s.names.contains "inherited"

/-- The characters that are used with a script. -/
def scriptExtension? (name : String) : Option CharSet :=
  (findScript? name).map fun s =>
    let own := CharSet.ofRanges s.own
    if s.isShared then own.diff (.ofRanges (scripts.flatMap (·.borrowed)))
    else own.union (.ofRanges s.borrowed)

end DynamicSql.Pattern.Property
