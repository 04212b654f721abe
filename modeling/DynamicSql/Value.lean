import DynamicSql.Json.Printer
import DynamicSql.Number.Decimal

/-!
# Values

Parameters, bindings and the results of expressions are values: what JSON can say, with whole
numbers apart from floating-point numbers. The fields of an object stand in the order of their
names (by code point), each name once.

`toSql` is how a value is spliced into SQL text and `display` how it shows in strings and
messages; they differ on null only. `toJson` and `ofJson` convert to JSON and back, which loses
nothing but the floats that are not finite.
-/

namespace DynamicSql

/-- A value of the expression language. -/
inductive Value where
  /-- The absence of a value. -/
  | null
  /-- A truth value. -/
  | boolean (b : Bool)
  /-- A whole number of 64 bits. -/
  | integer (n : Int64)
  /-- A floating-point number. -/
  | float (x : Float)
  /-- A string. -/
  | string (s : Text)
  /-- A sequence of values. -/
  | array (items : List Value)
  /-- Named values, in the order of their names. -/
  | object (fields : List (Text × Value))

namespace Value

instance : Inhabited Value := ⟨.null⟩

/-! ## Classification -/

/-- Whether the value is null. -/
def isNull : Value → Bool
  | null => true
  | _ => false

/-- Whether the value is null, a truth value, a number or a string. -/
def isScalar : Value → Bool
  | array _ | object _ => false
  | _ => true

/-- The name of the value's type in messages. -/
def typeName : Value → String
  | null => "null"
  | boolean _ => "boolean"
  | integer _ => "integer"
  | float _ => "float"
  | string _ => "string"
  | array _ => "array"
  | object _ => "object"

/-- Whether a number counts as true: its decimal is not zero, or it has none and differs from
zero. -/
def floatTruth (x : Float) : Bool :=
  match Number.Decimal.ofFloat? x with
  | some d => d.mantissa != 0
  | none => x != 0.0

/-- Whether the value counts as true: null, false and zero do not, everything else does. -/
def truthy : Value → Bool
  | null => false
  | boolean b => b
  | integer n => n != 0
  | float x => floatTruth x
  | string _ | array _ | object _ => true

/-- The floating-point number for a number of either kind. -/
def asFloat? : Value → Option Float
  | integer n => some (Number.ofInt64 n)
  | float x => some x
  | _ => none

/-- The characters of a string. -/
def asString? : Value → Option Text
  | string s => some s
  | _ => none

/-- The field of that name, if there is one. -/
def field? (fields : List (Text × Value)) (name : Text) : Option Value := Table.lookup name fields

/-! ## Equality of structure -/

mutual

/-- Whether two values are of the same type and equal; not-a-number equals nothing. -/
protected def beq : Value → Value → Bool
  | null, null => true
  | boolean a, boolean b => a == b
  | integer a, integer b => a == b
  | float a, float b => a == b
  | string a, string b => a == b
  | array a, array b => Value.beqItems a b
  | object a, object b => Value.beqFields a b
  | _, _ => false

/-- Whether two lists hold equal values in the same order. -/
protected def beqItems : List Value → List Value → Bool
  | [], [] => true
  | a :: as, b :: bs => a.beq b && Value.beqItems as bs
  | _, _ => false

/-- Whether two lists of fields have the same names and equal values. -/
protected def beqFields : List (Text × Value) → List (Text × Value) → Bool
  | [], [] => true
  | (k, a) :: as, (l, b) :: bs => k == l && a.beq b && Value.beqFields as bs
  | _, _ => false

end

instance : BEq Value := ⟨Value.beq⟩

/-! ## JSON -/

/-- Whether a floating-point number is a number and finite. -/
def isFinite (x : Float) : Bool :=
  match Number.Reading.ofFloat x with
  | .finite .. => true
  | _ => false

mutual

/-- The value as JSON, with null for numbers that are not finite. -/
def toJson : Value → Json
  | null => .null
  | boolean b => .boolean b
  | integer n => .integer n
  | float x => if isFinite x then .float x else .null
  | string s => .string s
  | array items => .array (toJsonItems items)
  | object fields => .object (toJsonFields fields)

/-- The values of a list as JSON. -/
def toJsonItems : List Value → List Json
  | [] => []
  | item :: rest => item.toJson :: toJsonItems rest

/-- The fields of an object as JSON. -/
def toJsonFields : List (Text × Value) → List (Text × Json)
  | [] => []
  | (name, value) :: rest => (name, value.toJson) :: toJsonFields rest

end

mutual

/-- The value that a document in canonical form stands for. -/
def ofJson : Json → Value
  | .null => null
  | .boolean b => boolean b
  | .integer n => integer n
  | .float x => float x
  | .string s => string s
  | .array items => array (ofJsonItems items)
  | .object fields => object (ofJsonFields fields)

/-- The values of a list of documents. -/
def ofJsonItems : List Json → List Value
  | [] => []
  | item :: rest => ofJson item :: ofJsonItems rest

/-- The fields that a document's fields stand for. -/
def ofJsonFields : List (Text × Json) → List (Text × Value)
  | [] => []
  | (name, json) :: rest => (name, ofJson json) :: ofJsonFields rest

end

/-- The value that a document stands for; of fields with the same name the last one counts. -/
def ofDocument (json : Json) : Value := ofJson json.canonical

/-- The value that the given fields make up; of fields with the same name the last one counts. -/
def ofFields (fields : List (Text × Value)) : Value :=
  object (fields.foldl (fun sorted (name, value) => Table.insertEntry name value sorted) [])

/-! ## Text -/

/-- The value as literal SQL text. -/
def toSql : Value → Text
  | null => []
  | boolean b => Json.booleanText b
  | integer n => Text.ofInt n.toInt
  | float x => Number.Layout.plain.write x
  | string s => s
  | v => v.toJson.compact

/-- The value as it shows in strings and messages. -/
def display : Value → Text
  | null => "null".toList
  | v => v.toSql

end Value

end DynamicSql
