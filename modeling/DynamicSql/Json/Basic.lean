import DynamicSql.Table

/-!
# JSON documents

A document is kept as it is written: the fields of an object stand in their order, and a name may
occur more than once. Whole numbers that fit 64 bits and all other numbers are told apart.

What a repeated name means depends on the reader of the document. Where an object becomes a
table, `canonical` keeps the last field of each name and sorts them.
-/

namespace DynamicSql

/-- A JSON document. -/
inductive Json where
  /-- The value `null`. -/
  | null
  /-- A truth value. -/
  | boolean (b : Bool)
  /-- A whole number. -/
  | integer (n : Int64)
  /-- Any other number. -/
  | float (x : Float)
  /-- A string. -/
  | string (s : Text)
  /-- An array. -/
  | array (items : List Json)
  /-- An object, with its fields in order. -/
  | object (fields : List (Text × Json))

namespace Json

instance : Inhabited Json := ⟨.null⟩

mutual

/-- The document with the fields of every object in the order of their names, and the last one of
several with the same name. -/
def canonical : Json → Json
  | .array items => .array (canonicalItems items)
  | .object fields => .object (canonicalFields [] fields)
  | other => other

/-- The documents of a list in canonical form. -/
def canonicalItems : List Json → List Json
  | [] => []
  | item :: rest => item.canonical :: canonicalItems rest

/-- The fields of a list in canonical form, inserted one after the other. -/
def canonicalFields (sorted : List (Text × Json)) : List (Text × Json) → List (Text × Json)
  | [] => sorted
  | (name, value) :: rest => canonicalFields (Table.insertEntry name value.canonical sorted) rest

end

/-- The elements of an array. -/
def asArray? : Json → Option (List Json)
  | .array items => some items
  | _ => none

/-- The characters of a string. -/
def asString? : Json → Option Text
  | .string s => some s
  | _ => none

end Json

end DynamicSql
