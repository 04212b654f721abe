import DynamicSql.Delimited
import DynamicSql.Table

/-!
# Properties

A table of properties fills in the `${key}` tokens of SQL text before any parameter is known. Two
reserved keys switch on defaults, `${key:default}`, and choose what separates key and default. A
token that no property answers stays as it is, for the parameters to answer later.
-/

namespace DynamicSql

/-- A table of texts by key. -/
abbrev Properties := Table Text

namespace Properties

/-- The key that switches on defaults, if its property is `true` in any case. -/
def enableDefaultKey : Text := "sqlweave.properties.enable-default-value".toList

/-- The key whose property separates keys from defaults. -/
def separatorKey : Text := "sqlweave.properties.default-value-separator".toList

/-- Whether tokens may name a default. -/
def enablesDefault (p : Properties) : Bool :=
  match p.get? enableDefaultKey with
  | some v => v.map Char.toLower == "true".toList
  | none => false

/-- What separates a key from its default. -/
def separator (p : Properties) : Text := (p.get? separatorKey).getD [':']

/-- The key and the default of a token, if it names one. -/
def keyAndDefault? (p : Properties) (content : Text) : Option (Text × Text) :=
  if p.enablesDefault ∧ p.separator ≠ [] then Text.cut? p.separator content else none

/-- What a token stands for, if the table says so. -/
def answer? (p : Properties) (content : Text) : Option Text :=
  match p.keyAndDefault? content with
  | some (key, fallback) => some ((p.get? key).getD fallback)
  | none => p.get? content

/-- The replacement of a token: its answer, or the token itself. -/
def resolve (p : Properties) (content : Text) : Text :=
  (p.answer? content).getD (Delimiters.substitution.wrap content)

/-- The text with every answered token replaced. -/
def substitute (p : Properties) (s : Text) : Text := Delimiters.substitution.replaceAll p.resolve s

/-- The text with no token replaced, as there is no table. -/
def substituteNone (s : Text) : Text :=
  Delimiters.substitution.replaceAll Delimiters.substitution.wrap s

end Properties

end DynamicSql
