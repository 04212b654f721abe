import DynamicSql.Directive.Json
import DynamicSql.Template

/-!
# Commands

What the command line does with the contents of its files: apply a template to parameters, check
a template, and fill in properties. A file that cannot be read has no contents.
-/

namespace DynamicSql

/-- Why a command fails. -/
inductive CommandError where
  /-- No parameters are given. -/
  | noInput
  /-- A template or parameters are not as they should be in JSON. -/
  | invalidJson
  /-- A template cannot be read. -/
  | unreadable
  /-- A configuration cannot be read. -/
  | unreadableConfiguration
  /-- A configuration is not as it should be in JSON. -/
  | invalidConfiguration
  /-- Directives make no template. -/
  | build (e : BuildError)
  /-- A template gives no SQL. -/
  | sql (e : SqlError)

/-- The text of the error. -/
def CommandError.message : CommandError → String
  | noInput => "No parameters provided. Use --params or pipe JSON to stdin."
  | invalidJson => "Invalid JSON"
  | unreadable => "IO error"
  | unreadableConfiguration => "Failed to read configuration"
  | invalidConfiguration => "Invalid configuration"
  | build e => s!"Template error: {e.message}"
  | sql e => s!"Render error: {e.message}"

/-- The fields of a placeholder that are set. -/
def Placeholder.toJson (p : Placeholder) : Json :=
  let optional (name : String) (value : Option Text) : List (Text × Json) :=
    match value with
    | some s => [(name.toList, .string s)]
    | none => []
  let scale : List (Text × Json) :=
    match p.numericScale with
    | some n => [("numericScale".toList, .integer (Int64.ofNat n))]
    | none => []
  .object <|
    [("property".toList, .string p.property), ("mode".toList, .string p.direction.name.toList)] ++
      optional "javaType" p.javaType ++ optional "jdbcType" p.jdbcType ++
      optional "jdbcTypeName" p.jdbcTypeName ++ optional "typeHandler" p.typeHandler ++
      scale ++ optional "resultMap" p.resultMap

/-- Bound SQL as JSON. -/
def BoundSql.toJson (b : BoundSql) : Json :=
  .object [
    ("sql".toList, .string b.sql),
    ("parameterMappings".toList, .array (b.placeholders.map Placeholder.toJson)),
    ("parameters".toList, .array (b.parameters.map Value.toJson)),
    ("additionalParameters".toList,
      .object (b.additional.toList.map fun (name, value) => (name, value.toJson)))]

namespace Command

/-- The contents of a file, if it can be read. -/
abbrev File := Option Text

/-- The configuration of a file, or the default one without a file. -/
def configuration : Option File → Except CommandError Configuration
  | none => .ok {}
  | some none => .error .unreadableConfiguration
  | some (some s) =>
    match Configuration.read? s with
    | some c => .ok c
    | none => .error .invalidConfiguration

/-- The template of a file. -/
def template (file : File) (c : Configuration) : Except CommandError Template :=
  match file with
  | none => .error .unreadable
  | some s =>
    match (Json.read? s).bind Directive.listOfJson? with
    | none => .error .invalidJson
    | some directives =>
      match Template.build directives c with
      | .ok t => .ok t
      | .error e => .error (.build e)

/-- Applies the template of a file to parameters. -/
def render (file : File) (parameters : Option Text) (config : Option File) :
    Except CommandError BoundSql :=
  match parameters with
  | none => .error .noInput
  | some s =>
    match Json.read? s with
    | none => .error .invalidJson
    | some json => do
      let c ← configuration config
      let t ← template file c
      match t.apply (Value.ofDocument json) with
      | .ok b => .ok b
      | .error e => .error (.sql e)

/-- Whether the template of a file depends on its parameter, and its expressions. -/
def check (file : File) (config : Option File) : Except CommandError (Bool × List Text) := do
  let c ← configuration config
  let t ← template file c
  return (t.root.isDynamic, t.root.expressions)

/-- A text with the properties of a configuration filled in. -/
def substitute (text : Text) (config : Option File) : Except CommandError Text :=
  (configuration config).map (·.properties.substitute text)

end Command

end DynamicSql
