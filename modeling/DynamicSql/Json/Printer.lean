import DynamicSql.Json.Basic
import DynamicSql.Number.Layout

/-!
# Writing JSON

`compact` writes a document without white space, `pretty` with one element or field a line and
two spaces for each level. Numbers that are not finite become `null`.
-/

namespace DynamicSql.Json

/-- One hexadecimal digit. -/
def hexDigit (n : Nat) : Char := Nat.digitChar n

/-- A character as it stands inside a JSON string. -/
def escapeChar (c : Char) : Text :=
  match c with
  | '"' => ['\\', '"']
  | '\\' => ['\\', '\\']
  | '\x08' => ['\\', 'b']
  | '\x0c' => ['\\', 'f']
  | '\n' => ['\\', 'n']
  | '\r' => ['\\', 'r']
  | '\t' => ['\\', 't']
  | c =>
    if c.toNat < 0x20 then ['\\', 'u', '0', '0', hexDigit (c.toNat / 16), hexDigit (c.toNat % 16)]
    else [c]

/-- A JSON string. -/
def stringText (s : Text) : Text := '"' :: s.flatMap escapeChar ++ ['"']

/-- A number in JSON, or `null` if it is not finite. -/
def floatText (x : Float) : Text :=
  match Number.Reading.ofFloat x with
  | .finite .. => Number.Layout.json.write x
  | _ => "null".toList

/-- A truth value in JSON. -/
def booleanText (b : Bool) : Text := if b then "true".toList else "false".toList

/-! ## Without white space -/

mutual

/-- The document without white space. -/
def compact : Json → Text
  | .null => "null".toList
  | .boolean b => booleanText b
  | .integer n => Text.ofInt n.toInt
  | .float x => floatText x
  | .string s => stringText s
  | .array items => '[' :: compactItems items
  | .object fields => '{' :: compactFields fields

/-- The elements of an array and its closing bracket. -/
def compactItems : List Json → Text
  | [] => [']']
  | [item] => item.compact ++ [']']
  | item :: rest => item.compact ++ ',' :: compactItems rest

/-- The fields of an object and its closing brace. -/
def compactFields : List (Text × Json) → Text
  | [] => ['}']
  | [(name, value)] => stringText name ++ ':' :: value.compact ++ ['}']
  | (name, value) :: rest => stringText name ++ ':' :: value.compact ++ ',' :: compactFields rest

end

/-! ## With one element a line -/

/-- A line break and the indentation of a level. -/
def newLine (level : Nat) : Text := '\n' :: List.replicate (2 * level) ' '

mutual

/-- The document, at a level of indentation. -/
def prettyAt (level : Nat) : Json → Text
  | .array [] => ['[', ']']
  | .object [] => ['{', '}']
  | .array items => '[' :: prettyItems (level + 1) items ++ newLine level ++ [']']
  | .object fields => '{' :: prettyFields (level + 1) fields ++ newLine level ++ ['}']
  | .null => "null".toList
  | .boolean b => booleanText b
  | .integer n => Text.ofInt n.toInt
  | .float x => floatText x
  | .string s => stringText s

/-- The elements of an array, each on its line. -/
def prettyItems (level : Nat) : List Json → Text
  | [] => []
  | [item] => newLine level ++ item.prettyAt level
  | item :: rest => newLine level ++ item.prettyAt level ++ ',' :: prettyItems level rest

/-- The fields of an object, each on its line. -/
def prettyFields (level : Nat) : List (Text × Json) → Text
  | [] => []
  | [(name, value)] => newLine level ++ stringText name ++ [':', ' '] ++ value.prettyAt level
  | (name, value) :: rest =>
    newLine level ++ stringText name ++ [':', ' '] ++ value.prettyAt level ++
      ',' :: prettyFields level rest

end

/-- The document with one element or field a line. -/
def pretty (json : Json) : Text := json.prettyAt 0

end DynamicSql.Json
