import DynamicSql.Pattern.Property.Age
import DynamicSql.Pattern.Property.Break

/-!
# Properties of characters in patterns

A pattern names the characters with a property, as in `\p{Greek}`, or those for which a property
has some value, as in `\p{script=Greek}`. Names are compared without regard to case, spaces,
underscores and hyphens. Main definition: `find?`, which gives the characters that a description
means, and whether it means all others.
-/

namespace DynamicSql.Pattern.Property

/-- Spaces, underscores and hyphens, which names may hold anywhere. -/
def isNameSeparator (c : Char) : Bool := c == ' ' || c == '_' || c == '-'

/-- A name as it is compared: in lower case, without separators and characters outside ASCII, and
without a leading `is`. The name `isc` keeps it, so that it is not taken for `c`. -/
def plainName (name : Text) : String :=
  let (prefixed, rest) :=
    match name with
    | 'i' :: 's' :: rest | 'i' :: 'S' :: rest | 'I' :: 's' :: rest | 'I' :: 'S' :: rest =>
      (true, rest)
    | name => (false, name)
  let kept := rest.filter fun c => c.toNat < 0x80 && !isNameSeparator c
  let plain := String.ofList (kept.map Char.toLower)
  if prefixed && plain == "c" then "isc" else plain

/-- The characters for which a property has a value. -/
def withValue? (property value : Text) : Option CharSet :=
  let value := plainName value
  match plainName property with
  | "generalcategory" | "gc" => generalCategory? value
  | "script" | "sc" => script? value
  | "scriptextensions" | "scx" => scriptExtension? value
  | "age" => age? value
  | "graphemeclusterbreak" | "gcb" => graphemeBreak? value
  | "wordbreak" | "wb" => wordBreak? value
  | "sentencebreak" | "sb" => sentenceBreak? value
  | _ => none

/-- The characters with a property of their own, of a general category, or of a script: what the
name is found under first. -/
def named? (name : Text) : Option CharSet :=
  let name := plainName name
  (flag? name).or ((generalCategory? name).or (script? name))

/-- What a description means: a name, or a property that has a value, written `name:value` or
`name=value`, or does not have it, written `name!=value`. The Boolean says whether it means the
characters that are not in the set. -/
def find? (description : Text) : Option (Bool × CharSet) :=
  match Text.cut? ['!', '='] description with
  | some (property, value) => (withValue? property value).map (true, ·)
  | none =>
    match (Text.cut? [':'] description).or (Text.cut? ['='] description) with
    | some (property, value) => (withValue? property value).map (false, ·)
    | none => (named? description).map (false, ·)

end DynamicSql.Pattern.Property
