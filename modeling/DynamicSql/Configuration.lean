import DynamicSql.BoundSql
import DynamicSql.Json.Reader
import DynamicSql.Json.Record
import DynamicSql.Properties

/-!
# Configuration

The settings that hold for the templates of an application. In JSON, a configuration is a record
without other fields; what it does not say has its default.
-/

namespace DynamicSql

/-- The settings of an application. -/
structure Configuration where
  /-- The properties that fill in `${key}` tokens when a template is built. -/
  properties : Properties := Table.empty
  /-- The markers of the database driver. -/
  style : MarkerStyle := .question
  /-- The id of the database, which expressions see as `_databaseId`. -/
  database : Option Text := none
  /-- The pattern that every value spliced into SQL has to match as a whole. -/
  filter : Option Text := none

namespace Configuration

/-- The names of the fields in JSON, in their order. -/
def fieldNames : List Text :=
  ["variables".toList, "placeholder_style".toList, "database_id".toList,
    "injection_filter".toList]

/-- The properties that an object of texts says; of several with the same key the last counts. -/
def propertiesOfJson? : Json → Option Properties
  | .object fields =>
    (fields.mapM fun (f : Text × Json) => f.2.asString?.map fun s => (f.1, s)).map Table.ofList
  | _ => none

/-- The style that a name says, or an object with the name and null. -/
def styleOfJson? : Json → Option MarkerStyle
  | .string s => MarkerStyle.ofName? s
  | .object [(name, .null)] => MarkerStyle.ofName? name
  | _ => none

/-- Reads a field that may be missing but not be null. -/
def given {α : Type} (fallback : α) (read : Json → Option α) : Option Json → Option α
  | none => some fallback
  | some json => read json

/-- Whether a document has no fields but those of a configuration. -/
def hasKnownFields : Json → Bool
  | .object fields => fields.all fun f => fieldNames.contains f.1
  | _ => true

/-- The configuration that a document says. -/
def ofJson? (json : Json) : Option Configuration :=
  if hasKnownFields json then
    match json.arguments? fieldNames with
    | some [properties, style, database, filter] => do
      let properties ← given Table.empty propertiesOfJson? properties
      let style ← given .question styleOfJson? style
      let database ← Json.optionalText? database
      let filter ← Json.optionalText? filter
      return { properties, style, database, filter }
    | _ => none
  else none

/-- The configuration that a text says. -/
def read? (s : Text) : Option Configuration := (Json.read? s).bind ofJson?

/-- Whether every setting has its default. -/
def isDefault (c : Configuration) : Bool :=
  c.properties.toList.isEmpty && c.style == .question && c.database.isNone && c.filter.isNone

end Configuration

end DynamicSql
