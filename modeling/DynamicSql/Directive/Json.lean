import DynamicSql.Directive.Basic
import DynamicSql.Json.Record

/-!
# Directives in JSON

A directive is a record with a field `type`, or an array that begins with the type. Inside
another directive the type may also be given by its number. Fields that a directive does not
have are ignored. A branch of `choose` is a record of a test and a body.

Writing gives an object with all fields, null where nothing is set.
-/

namespace DynamicSql

namespace Directive

/-- The types of directives. -/
inductive Kind where
  /-- `text` -/
  | text
  /-- `if` -/
  | guard
  /-- `choose` -/
  | choose
  /-- `foreach` -/
  | loop
  /-- `trim` -/
  | trim
  /-- `where` -/
  | whereClause
  /-- `set` -/
  | setClause
  /-- `bind` -/
  | bind
  deriving DecidableEq

namespace Kind

/-- All types, by their numbers. -/
def all : List Kind := [text, guard, choose, loop, trim, whereClause, setClause, bind]

/-- The name of a type. -/
def name : Kind → Text
  | text => "text".toList
  | guard => "if".toList
  | choose => "choose".toList
  | loop => "foreach".toList
  | trim => "trim".toList
  | whereClause => "where".toList
  | setClause => "set".toList
  | bind => "bind".toList

/-- The fields of a directive besides its type. -/
def fieldNames : Kind → List Text
  | text => ["content".toList]
  | guard => ["test".toList, "body".toList]
  | choose => ["when".toList, "otherwise".toList]
  | loop => ["collection".toList, "item".toList, "index".toList, "open".toList,
      "close".toList, "separator".toList, "body".toList]
  | trim => ["prefix".toList, "suffix".toList, "prefix_overrides".toList,
      "suffix_overrides".toList, "body".toList]
  | whereClause => ["body".toList]
  | setClause => ["body".toList]
  | bind => ["name".toList, "value".toList]

/-- The type that a field says; a number counts inside another directive only. -/
def ofJson? (nested : Bool) : Json → Option Kind
  | .string s => all.find? (·.name == s)
  | .integer n => if nested ∧ 0 ≤ n.toInt then all[n.toInt.toNat]? else none
  | _ => none

end Kind

/-- The name of the field that holds the type. -/
def typeName : Text := "type".toList

/-- What says the type of a directive. -/
def typeField? : Json → Option Json
  | .object fields => (Json.fieldOnce? typeName fields).join
  | .array (type :: _) => some type
  | _ => none

/-- A directive whose bodies have not been read yet. -/
inductive Shape where
  /-- Text, with its content. -/
  | text (content : Text)
  /-- A test and a body. -/
  | guard (test : Text) (body : Json)
  /-- Branches, and what stands for none of them. -/
  | choose (branches : Json) (otherwise : Option Json)
  /-- A loop and its body. -/
  | loop (loop : Loop) (body : Json)
  /-- A body whose ends are trimmed. -/
  | trim (trimming : Trimming) (body : Json)
  /-- The body of a `WHERE` clause. -/
  | whereClause (body : Json)
  /-- The body of a `SET` clause. -/
  | setClause (body : Json)
  /-- A name and an expression. -/
  | bind (name value : Text)

namespace Shape

/-- The documents inside a shape. -/
def parts : Shape → List Json
  | text _ | bind _ _ => []
  | guard _ body | loop _ body | trim _ body | whereClause body | setClause body => [body]
  | choose branches none => [branches]
  | choose branches (some otherwise) => [branches, otherwise]

/-- The shape of a directive of a type with the given fields. -/
def ofArguments? : Kind → List (Option Json) → Option Shape
  | .text, [some (.string content)] => some (.text content)
  | .guard, [some (.string test), some body] => some (.guard test body)
  | .choose, [some branches, otherwise] => some (.choose branches (Json.present? otherwise))
  | .loop, [some (.string collection), item, index, opening, closing, separator, some body] => do
    let item ← Json.optionalText? item
    let index ← Json.optionalText? index
    let opening ← Json.optionalText? opening
    let closing ← Json.optionalText? closing
    let separator ← Json.optionalText? separator
    some (.loop { collection, item, index, opening, closing, separator } body)
  | .trim, [lead, tail, leadOverrides, tailOverrides, some body] => do
    let lead ← Json.optionalText? lead
    let tail ← Json.optionalText? tail
    let leadOverrides ← Json.optionalText? leadOverrides
    let tailOverrides ← Json.optionalText? tailOverrides
    some (.trim { lead, tail, leadOverrides, tailOverrides } body)
  | .whereClause, [some body] => some (.whereClause body)
  | .setClause, [some body] => some (.setClause body)
  | .bind, [some (.string name), some (.string value)] => some (.bind name value)
  | _, _ => none

/-- The shape of a directive. -/
def ofJson? (nested : Bool) (json : Json) : Option Shape :=
  (typeField? json).bind fun type =>
    (Kind.ofJson? nested type).bind fun kind =>
      match json with
      | .array (_ :: items) =>
        ((Json.array items).arguments? kind.fieldNames).bind (ofArguments? kind)
      | json => (json.arguments? kind.fieldNames).bind (ofArguments? kind)

theorem some_mem_of_mem_parts {kind : Kind} {arguments : List (Option Json)} {shape : Shape}
    {part : Json} (h : ofArguments? kind arguments = some shape) (hmem : part ∈ shape.parts) :
    some part ∈ arguments := by
  unfold ofArguments? at h
  split at h
  · cases h; cases hmem
  · cases h; obtain rfl := List.mem_singleton.1 hmem; simp
  · next branches otherwise =>
    cases h
    rcases otherwise with _ | (_ | _ | _ | _ | _ | _ | _) <;>
      simp_all [Json.present?, parts]
  · simp only [Option.bind_eq_bind, Option.bind_eq_some_iff, Option.some.injEq] at h
    obtain ⟨_, _, _, _, _, _, _, _, _, _, rfl⟩ := h
    obtain rfl := List.mem_singleton.1 hmem; simp
  · simp only [Option.bind_eq_bind, Option.bind_eq_some_iff, Option.some.injEq] at h
    obtain ⟨_, _, _, _, _, _, _, _, rfl⟩ := h
    obtain rfl := List.mem_singleton.1 hmem; simp
  · cases h; obtain rfl := List.mem_singleton.1 hmem; simp
  · cases h; obtain rfl := List.mem_singleton.1 hmem; simp
  · cases h; cases hmem
  · cases h

/-- The documents inside a directive are smaller than the directive. -/
theorem sizeOf_of_mem_parts {nested : Bool} {json part : Json} {shape : Shape}
    (h : ofJson? nested json = some shape) (hmem : part ∈ shape.parts) :
    sizeOf part < sizeOf json := by
  unfold ofJson? at h
  obtain ⟨_, _, h⟩ := Option.bind_eq_some_iff.1 h
  obtain ⟨_, _, h⟩ := Option.bind_eq_some_iff.1 h
  split at h
  · obtain ⟨_, harguments, h⟩ := Option.bind_eq_some_iff.1 h
    have := Json.sizeOf_of_some_mem_arguments? harguments (some_mem_of_mem_parts h hmem)
    simp only [Json.array.sizeOf_spec, List.cons.sizeOf_spec] at *
    omega
  · obtain ⟨_, harguments, h⟩ := Option.bind_eq_some_iff.1 h
    exact Json.sizeOf_of_some_mem_arguments? harguments (some_mem_of_mem_parts h hmem)

end Shape

/-- The test and the body of a branch. -/
def branchParts? (json : Json) : Option (Text × Json) :=
  match json.arguments? ["test".toList, "body".toList] with
  | some [some (.string test), some body] => some (test, body)
  | _ => none

theorem sizeOf_of_branchParts? {json body : Json} {test : Text}
    (h : branchParts? json = some (test, body)) : sizeOf body < sizeOf json := by
  unfold branchParts? at h
  split at h
  · next harguments =>
    cases h
    exact Json.sizeOf_of_some_mem_arguments? harguments (by simp)
  · cases h

/-! ## Reading -/

mutual

/-- The directive that a document says. -/
def ofJson? (nested : Bool) (json : Json) : Option Directive :=
  match _h : Shape.ofJson? nested json with
  | none => none
  | some (.text content) => some (.text content)
  | some (.guard test body) => (bodyOfJson? body).map (.guard test)
  | some (.choose branches none) => (branchesOfJson? branches).map (.choose · none)
  | some (.choose branches (some otherwise)) =>
    match branchesOfJson? branches, bodyOfJson? otherwise with
    | some branches, some otherwise => some (.choose branches (some otherwise))
    | _, _ => none
  | some (.loop l body) => (bodyOfJson? body).map (.loop l)
  | some (.trim trimming body) => (bodyOfJson? body).map (.trim trimming)
  | some (.whereClause body) => (bodyOfJson? body).map .whereClause
  | some (.setClause body) => (bodyOfJson? body).map .setClause
  | some (.bind name value) => some (.bind name value)
termination_by sizeOf json
decreasing_by all_goals exact Shape.sizeOf_of_mem_parts _h (by simp [Shape.parts])

/-- The directives of a body. -/
def bodyOfJson? : Json → Option (List Directive)
  | .array items => nestedOfJson? items
  | _ => none
termination_by json => sizeOf json

/-- The directives of a list inside another directive. -/
def nestedOfJson? : List Json → Option (List Directive)
  | [] => some []
  | item :: items =>
    match ofJson? true item, nestedOfJson? items with
    | some directive, some directives => some (directive :: directives)
    | _, _ => none
termination_by items => sizeOf items

/-- The branches of a choice. -/
def branchesOfJson? : Json → Option (List (Text × List Directive))
  | .array items => branchListOfJson? items
  | _ => none
termination_by json => sizeOf json

/-- The branches of a list. -/
def branchListOfJson? : List Json → Option (List (Text × List Directive))
  | [] => some []
  | item :: items =>
    match branchOfJson? item, branchListOfJson? items with
    | some branch, some branches => some (branch :: branches)
    | _, _ => none
termination_by items => sizeOf items

/-- One branch. -/
def branchOfJson? (json : Json) : Option (Text × List Directive) :=
  match _h : branchParts? json with
  | none => none
  | some (test, body) => (bodyOfJson? body).map fun body => (test, body)
termination_by sizeOf json
decreasing_by exact sizeOf_of_branchParts? _h

end

/-- The directives of a template. -/
def listOfJson? (json : Json) : Option (List Directive) :=
  json.asArray?.bind fun items => items.mapM (ofJson? false)

/-! ## Writing -/

/-- An object with a type and the fields that belong to it. -/
def record (kind : Kind) (values : List Json) : Json :=
  .object ((typeName, .string kind.name) :: kind.fieldNames.zip values)

mutual

/-- A directive as JSON, with all its fields. -/
def toJson : Directive → Json
  | .text content => record .text [.string content]
  | .guard test body => record .guard [.string test, .array (listToJson body)]
  | .choose branches none => record .choose [.array (branchesToJson branches), .null]
  | .choose branches (some otherwise) =>
    record .choose [.array (branchesToJson branches), .array (listToJson otherwise)]
  | .loop l body =>
    record .loop [.string l.collection, Json.ofOptionalText l.item,
      Json.ofOptionalText l.index, Json.ofOptionalText l.opening,
      Json.ofOptionalText l.closing, Json.ofOptionalText l.separator,
      .array (listToJson body)]
  | .trim trimming body =>
    record .trim [Json.ofOptionalText trimming.lead, Json.ofOptionalText trimming.tail,
      Json.ofOptionalText trimming.leadOverrides, Json.ofOptionalText trimming.tailOverrides,
      .array (listToJson body)]
  | .whereClause body => record .whereClause [.array (listToJson body)]
  | .setClause body => record .setClause [.array (listToJson body)]
  | .bind name value => record .bind [.string name, .string value]

/-- Several directives as JSON. -/
def listToJson : List Directive → List Json
  | [] => []
  | directive :: rest => directive.toJson :: listToJson rest

/-- The branches of a choice as JSON. -/
def branchesToJson : List (Text × List Directive) → List Json
  | [] => []
  | (test, body) :: rest =>
    .object [("test".toList, .string test), ("body".toList, .array (listToJson body))] ::
      branchesToJson rest

end

end Directive

end DynamicSql
