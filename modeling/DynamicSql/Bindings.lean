import DynamicSql.Table
import DynamicSql.Value

/-!
# Bindings

The names an expression may use. Two of them are reserved: the parameter of the call and the
database it is made for. Bindings are flat: whatever a part of a template binds is seen by every
part that runs later, until it is unbound. A name that is not bound stands for the field of that
name of the parameter, if the parameter is an object.
-/

namespace DynamicSql

/-- The values bound to names. -/
abbrev Bindings := Table Value

namespace Bindings

/-- The name of the parameter. -/
def parameterName : Text := "_parameter".toList

/-- The name of the database id. -/
def databaseName : Text := "_databaseId".toList

/-- The bindings at the start of a call. -/
def ofCall (parameter : Value) (database : Option Text) : Bindings :=
  (Table.empty.insert parameterName parameter).insert databaseName
    (match database with
    | some id => .string id
    | none => .null)

/-- The parameter of the call. -/
def parameter (b : Bindings) : Value := (b.get? parameterName).getD .null

/-- The field of the parameter with that name. -/
def parameterField? (b : Bindings) (name : Text) : Option Value :=
  match b.parameter with
  | .object fields => Value.field? fields name
  | _ => none

/-- What a name stands for: its binding, or else a field of the parameter. -/
def find? (b : Bindings) (name : Text) : Option Value := (b.get? name).or (b.parameterField? name)

/-- What a name stands for in an expression, null if nothing. -/
def value (b : Bindings) (name : Text) : Value := (b.find? name).getD .null

end Bindings

end DynamicSql
