import DynamicSql.Directive.Json
import Mathlib.Tactic.Lemma

/-!
# Directives as JSON and back

Reading undoes writing: a directive that is written as an object with all its fields is read as the
same directive, whatever is set in it and however deep its bodies are nested (`ofJson?_toJson`). So
reading what was read and written again changes nothing.

That holds because a record is read field by field (`namedArguments?_zip`), and because every field
is read by itself: a text or a body that must be there, or one that may be missing (`decode?`). None
of these tells a field that is missing from one that is null. So documents that differ in such
fields only are read alike (`ofJson?_congr_present`).
-/

namespace DynamicSql

/-! ## Fields of records -/

namespace Json

variable {name other : Text} {value : Json} {fields : List (Text × Json)}

lemma filter_eq_nil_of_not_mem (h : name ∉ fields.map Prod.fst) :
    fields.filter (fun f => f.1 = name) = [] := by
  rw [List.filter_eq_nil_iff]
  intro f hf hname
  exact h (decide_eq_true_iff.1 hname ▸ List.mem_map_of_mem hf)

lemma fieldOnce?_of_not_mem (h : name ∉ fields.map Prod.fst) :
    fieldOnce? name fields = some none := by
  rw [fieldOnce?, filter_eq_nil_of_not_mem h]

lemma fieldOnce?_cons_self (h : name ∉ fields.map Prod.fst) :
    fieldOnce? name ((name, value) :: fields) = some (some value) := by
  rw [fieldOnce?, List.filter_cons_of_pos (by simp), filter_eq_nil_of_not_mem h]

lemma fieldOnce?_cons_of_ne (h : other ≠ name) :
    fieldOnce? name ((other, value) :: fields) = fieldOnce? name fields := by
  rw [fieldOnce?, List.filter_cons_of_neg (by simpa using h), fieldOnce?]

lemma namedArguments?_cons_of_not_mem {names : List Text} (h : other ∉ names) :
    namedArguments? ((other, value) :: fields) names = namedArguments? fields names := by
  induction names with
  | nil => rfl
  | cons name names ih =>
    obtain ⟨hname, hnames⟩ := not_or.1 (mt List.mem_cons.2 h)
    rw [namedArguments?, namedArguments?, fieldOnce?_cons_of_ne hname, ih hnames]

lemma length_of_namedArguments? {names : List Text} {arguments : List (Option Json)}
    (h : namedArguments? fields names = some arguments) : arguments.length = names.length := by
  induction names generalizing arguments with
  | nil =>
    cases h
    rfl
  | cons name names ih =>
    rw [namedArguments?] at h
    obtain ⟨field, -, h⟩ := Option.bind_eq_some_iff.1 h
    obtain ⟨rest, hrest, rfl⟩ := Option.map_eq_some_iff.1 h
    exact congrArg Nat.succ (ih hrest)

/-- **A record is read field by field.** -/
lemma namedArguments?_zip {names : List Text} {values : List Json} (hnames : names.Nodup)
    (hlength : values.length = names.length) :
    namedArguments? (names.zip values) names = some (values.map some) := by
  induction names generalizing values with
  | nil =>
    rw [List.length_eq_zero_iff.1 hlength]
    rfl
  | cons name names ih =>
    obtain ⟨value, values, rfl⟩ := List.exists_cons_of_length_eq_add_one hlength
    obtain ⟨hname, hnames⟩ := List.nodup_cons.1 hnames
    have hlength : values.length = names.length := Nat.succ.inj hlength
    have hrest : name ∉ (names.zip values).map Prod.fst := by
      rwa [List.map_fst_zip (Nat.le_of_eq hlength.symm)]
    rw [List.zip_cons_cons, namedArguments?, fieldOnce?_cons_self hrest,
      namedArguments?_cons_of_not_mem hname, ih hnames hlength]
    rfl

@[simp] lemma optionalText?_ofOptionalText (text : Option Text) :
    optionalText? (some (ofOptionalText text)) = some text := by
  cases text <;> rfl

/-! ### Fields that are missing or null -/

/-- The fields that are not null. -/
def presentFields (fields : List (Text × Json)) : List (Text × Json) :=
  fields.filter fun f => (present? (some f.2)).isSome

lemma null_or_present (value : Json) : value = .null ∨ present? (some value) = some value := by
  cases value <;> first | exact .inl rfl | exact .inr rfl

lemma presentFields_cons_null : presentFields ((other, .null) :: fields) = presentFields fields :=
  rfl

lemma presentFields_cons_of_present (h : present? (some value) = some value) :
    presentFields ((other, value) :: fields) = (other, value) :: presentFields fields := by
  rw [presentFields, List.filter_cons_of_pos (by rw [h]; rfl), presentFields]

lemma fieldOnce?_presentFields (name : Text) (h : (fields.map Prod.fst).Nodup) :
    ∃ field, fieldOnce? name fields = some field ∧
      fieldOnce? name (presentFields fields) = some (present? field) := by
  induction fields with
  | nil => exact ⟨none, rfl, rfl⟩
  | cons field rest ih =>
    obtain ⟨other, value⟩ := field
    obtain ⟨hother, hrest⟩ := List.nodup_cons.1 h
    have hkept : other ∉ (presentFields rest).map Prod.fst :=
      fun hmem => hother ((List.filter_sublist.map Prod.fst).subset hmem)
    by_cases hname : other = name
    · subst hname
      refine ⟨some value, fieldOnce?_cons_self hother, ?_⟩
      rcases null_or_present value with rfl | hvalue
      · rw [presentFields_cons_null]
        exact fieldOnce?_of_not_mem hkept
      · rw [presentFields_cons_of_present hvalue, hvalue]
        exact fieldOnce?_cons_self hkept
    · obtain ⟨field, hfield, hpresent⟩ := ih hrest
      refine ⟨field, (fieldOnce?_cons_of_ne hname).trans hfield, ?_⟩
      rcases null_or_present value with rfl | hvalue
      · rwa [presentFields_cons_null]
      · rwa [presentFields_cons_of_present hvalue, fieldOnce?_cons_of_ne hname]

/-- **Without its null fields a record is read with these missing.** -/
lemma namedArguments?_presentFields (names : List Text) (h : (fields.map Prod.fst).Nodup) :
    ∃ arguments, namedArguments? fields names = some arguments ∧
      namedArguments? (presentFields fields) names = some (arguments.map present?) := by
  induction names with
  | nil => exact ⟨[], rfl, rfl⟩
  | cons name names ih =>
    obtain ⟨field, hfield, hpresent⟩ := fieldOnce?_presentFields name h
    obtain ⟨arguments, harguments, hrest⟩ := ih
    refine ⟨field :: arguments, ?_, ?_⟩
    · rw [namedArguments?, hfield, harguments]
      rfl
    · rw [namedArguments?, hpresent, hrest]
      rfl

/-- A reader that has no answer for null has the same for a missing field. -/
lemma present?_bind {α : Type} {read? : Json → Option α} (h : read? .null = none)
    (field : Option Json) : (present? field).bind read? = field.bind read? := by
  rcases field with _ | (_ | _ | _ | _ | _ | _ | _) <;> first | rfl | exact h.symm

@[simp] lemma optionalText?_present? (field : Option Json) :
    optionalText? (present? field) = optionalText? field := by
  rcases field with _ | (_ | _ | _ | _ | _ | _ | _) <;> rfl

@[simp] lemma present?_present? (field : Option Json) :
    present? (present? field) = present? field := by
  rcases field with _ | (_ | _ | _ | _ | _ | _ | _) <;> rfl

end Json

namespace Directive

open Json

/-! ## What each type of directive reads -/

/-- A body that must be there. -/
def body? (field : Option Json) : Option (List Directive) := field.bind bodyOfJson?

/-- Branches that must be there. -/
def branches? (field : Option Json) : Option (List (Text × List Directive)) :=
  field.bind branchesOfJson?

/-- A text that must be there. -/
def text? (field : Option Json) : Option Text := field.bind asString?

/-- A body that may be missing. -/
def optionalBody? (field : Option Json) : Option (Option (List Directive)) :=
  match present? field with
  | none => some none
  | some body => (bodyOfJson? body).map some

@[simp] lemma body?_present? (field : Option Json) : body? (present? field) = body? field :=
  present?_bind (by simp [bodyOfJson?]) field

@[simp] lemma branches?_present? (field : Option Json) :
    branches? (present? field) = branches? field :=
  present?_bind (by simp [branchesOfJson?]) field

@[simp] lemma text?_present? (field : Option Json) : text? (present? field) = text? field :=
  present?_bind rfl field

@[simp] lemma optionalBody?_present? (field : Option Json) :
    optionalBody? (present? field) = optionalBody? field := by
  rw [optionalBody?, present?_present?, optionalBody?]

/-- The directive of a type with the given fields, each of which is read by itself. -/
def decode? : Kind → List (Option Json) → Option Directive
  | .text, [content] => (text? content).map .text
  | .guard, [test, body] =>
    (text? test).bind fun test => (body? body).map (.guard test)
  | .choose, [branches, otherwise] =>
    (branches? branches).bind fun branches =>
      (optionalBody? otherwise).map (.choose branches)
  | .loop, [collection, item, index, opening, closing, separator, body] => do
    let collection ← text? collection
    let item ← optionalText? item
    let index ← optionalText? index
    let opening ← optionalText? opening
    let closing ← optionalText? closing
    let separator ← optionalText? separator
    (body? body).map (.loop { collection, item, index, opening, closing, separator })
  | .trim, [lead, tail, leadOverrides, tailOverrides, body] => do
    let lead ← optionalText? lead
    let tail ← optionalText? tail
    let leadOverrides ← optionalText? leadOverrides
    let tailOverrides ← optionalText? tailOverrides
    (body? body).map (.trim { lead, tail, leadOverrides, tailOverrides })
  | .whereClause, [body] => (body? body).map .whereClause
  | .setClause, [body] => (body? body).map .setClause
  | .bind, [name, value] => (text? name).bind fun name => (text? value).map (.bind name)
  | _, _ => none

/-- The directive of a shape. -/
def ofShape? : Shape → Option Directive
  | .text content => some (.text content)
  | .guard test body => (bodyOfJson? body).map (.guard test)
  | .choose branches none => (branchesOfJson? branches).map (.choose · none)
  | .choose branches (some otherwise) =>
    match branchesOfJson? branches, bodyOfJson? otherwise with
    | some branches, some otherwise => some (.choose branches (some otherwise))
    | _, _ => none
  | .loop l body => (bodyOfJson? body).map (.loop l)
  | .trim trimming body => (bodyOfJson? body).map (.trim trimming)
  | .whereClause body => (bodyOfJson? body).map .whereClause
  | .setClause body => (bodyOfJson? body).map .setClause
  | .bind name value => some (.bind name value)

lemma ofJson?_eq (nested : Bool) (json : Json) :
    ofJson? nested json = (Shape.ofJson? nested json).bind ofShape? := by
  rw [ofJson?]
  split <;> rename_i hshape <;> rw [hshape] <;> rfl

lemma ofShape?_ofArguments? (kind : Kind) (arguments : List (Option Json))
    (h : arguments.length = kind.fieldNames.length) :
    (Shape.ofArguments? kind arguments).bind ofShape? = decode? kind arguments := by
  -- only the fields that must be there are taken apart, as a shape asks for these first
  match kind, arguments, h with
  | .text, [content], _ =>
    rcases content with _ | (_ | _ | _ | _ | _ | _ | _) <;> rfl
  | .guard, [test, body], _ =>
    rcases test with _ | (_ | _ | _ | _ | _ | _ | _) <;> cases body <;> rfl
  | .choose, [branches, otherwise], _ =>
    cases branches with
    | none => rfl
    | some branches =>
      simp only [Shape.ofArguments?, decode?, branches?, optionalBody?, Option.bind_some]
      cases present? otherwise with
      | none => cases hbranches : branchesOfJson? branches <;> simp [ofShape?, hbranches]
      | some otherwise =>
        cases hbranches : branchesOfJson? branches <;> cases hotherwise : bodyOfJson? otherwise <;>
          simp [ofShape?, hbranches, hotherwise]
  | .loop, [collection, item, index, opening, closing, separator, body], _ =>
    rcases collection with _ | (_ | _ | _ | _ | _ | _ | _) <;> cases body <;>
      simp [Shape.ofArguments?, decode?, text?, body?, asString?, ofShape?, Option.bind_assoc]
  | .trim, [lead, tail, leadOverrides, tailOverrides, body], _ =>
    cases body <;> simp [Shape.ofArguments?, decode?, body?, ofShape?, Option.bind_assoc]
  | .whereClause, [body], _ => cases body <;> rfl
  | .setClause, [body], _ => cases body <;> rfl
  | .bind, [name, value], _ =>
    rcases name with _ | (_ | _ | _ | _ | _ | _ | _) <;>
      rcases value with _ | (_ | _ | _ | _ | _ | _ | _) <;> rfl

lemma ofJson?_object (nested : Bool) (fields : List (Text × Json)) :
    ofJson? nested (.object fields) =
      ((fieldOnce? typeName fields).join.bind (Kind.ofJson? nested)).bind fun kind =>
        (namedArguments? fields kind.fieldNames).bind (decode? kind) := by
  rw [ofJson?_eq, Shape.ofJson?, typeField?, Option.bind_assoc, Option.bind_assoc]
  congr 1
  funext type
  rw [Option.bind_assoc]
  congr 1
  funext kind
  change ((namedArguments? fields kind.fieldNames).bind (Shape.ofArguments? kind)).bind ofShape? = _
  cases harguments : namedArguments? fields kind.fieldNames with
  | none => rfl
  | some arguments =>
    exact ofShape?_ofArguments? kind arguments (length_of_namedArguments? harguments)

/-! ## Fields that are missing or null -/

lemma decode?_present? (kind : Kind) (arguments : List (Option Json))
    (h : arguments.length = kind.fieldNames.length) :
    decode? kind (arguments.map present?) = decode? kind arguments := by
  match kind, arguments, h with
  | .text, [_], _ => simp [decode?]
  | .guard, [_, _], _ => simp [decode?]
  | .choose, [_, _], _ => simp [decode?]
  | .loop, [_, _, _, _, _, _, _], _ => simp [decode?]
  | .trim, [_, _, _, _, _], _ => simp [decode?]
  | .whereClause, [_], _ => simp [decode?]
  | .setClause, [_], _ => simp [decode?]
  | .bind, [_, _], _ => simp [decode?]

/-- **Null fields may be left out.** -/
lemma ofJson?_presentFields (nested : Bool) {fields : List (Text × Json)}
    (h : (fields.map Prod.fst).Nodup) :
    ofJson? nested (.object (presentFields fields)) = ofJson? nested (.object fields) := by
  obtain ⟨type, htype, hpresent⟩ := fieldOnce?_presentFields typeName h
  rw [ofJson?_object, ofJson?_object, htype, hpresent, Option.join_some, Option.join_some,
    present?_bind rfl]
  congr 1
  funext kind
  obtain ⟨arguments, harguments, hrest⟩ := namedArguments?_presentFields kind.fieldNames h
  rw [harguments, hrest]
  exact decode?_present? kind arguments (length_of_namedArguments? harguments)

/-! ## There and back -/

lemma Kind.nodup_fieldNames (kind : Kind) : kind.fieldNames.Nodup := by
  cases kind <;> decide

lemma Kind.typeName_not_mem_fieldNames (kind : Kind) : typeName ∉ kind.fieldNames := by
  cases kind <;> decide

lemma Kind.ofJson?_name (nested : Bool) (kind : Kind) :
    Kind.ofJson? nested (.string kind.name) = some kind := by
  cases kind <;> rfl

/-- **The fields of a directive that is written are read.** -/
lemma ofJson?_record (nested : Bool) {kind : Kind} {values : List Json}
    (h : values.length = kind.fieldNames.length) :
    ofJson? nested (record kind values) = decode? kind (values.map some) := by
  have htype : typeName ∉ (kind.fieldNames.zip values).map Prod.fst := by
    rw [List.map_fst_zip (Nat.le_of_eq h.symm)]
    exact kind.typeName_not_mem_fieldNames
  rw [record, ofJson?_object, fieldOnce?_cons_self htype, Option.join_some, Option.bind_some,
    Kind.ofJson?_name, Option.bind_some,
    namedArguments?_cons_of_not_mem kind.typeName_not_mem_fieldNames,
    namedArguments?_zip kind.nodup_fieldNames h, Option.bind_some]

lemma text?_string (text : Text) : text? (some (.string text)) = some text := rfl

lemma branches?_array (items : List Json) :
    branches? (some (.array items)) = branchListOfJson? items := by
  rw [branches?, Option.bind_some, branchesOfJson?]

lemma body?_array (items : List Json) : body? (some (.array items)) = nestedOfJson? items := by
  rw [body?, Option.bind_some, bodyOfJson?]

lemma branchOfJson?_object (test : Text) (items : List Json) :
    branchOfJson? (.object [("test".toList, .string test), ("body".toList, .array items)]) =
      (nestedOfJson? items).map fun body => (test, body) := by
  have hparts : branchParts? (.object [("test".toList, .string test),
      ("body".toList, .array items)]) = some (test, .array items) := rfl
  rw [branchOfJson?]
  split
  case h_1 hnone => rw [hparts] at hnone; cases hnone
  case h_2 hsome =>
    rw [hparts] at hsome
    cases hsome
    rw [bodyOfJson?]

mutual

/-- A directive that is written is read as itself. -/
lemma ofJson?_toJson (nested : Bool) : ∀ d : Directive, ofJson? nested d.toJson = some d
  | .text content => by
    rw [toJson, ofJson?_record nested rfl]
    rfl
  | .guard test body => by
    rw [toJson, ofJson?_record nested rfl]
    simp [decode?, text?_string, body?_array, nestedOfJson?_listToJson body]
  | .choose branches none => by
    rw [toJson, ofJson?_record nested rfl]
    simp [decode?, branches?_array, branchListOfJson?_branchesToJson branches, optionalBody?,
      present?]
  | .choose branches (some otherwise) => by
    rw [toJson, ofJson?_record nested rfl]
    simp [decode?, branches?_array, branchListOfJson?_branchesToJson branches, optionalBody?,
      present?, bodyOfJson?, nestedOfJson?_listToJson otherwise]
  | .loop l body => by
    rw [toJson, ofJson?_record nested rfl]
    simp [decode?, text?_string, body?_array, nestedOfJson?_listToJson body]
  | .trim trimming body => by
    rw [toJson, ofJson?_record nested rfl]
    simp [decode?, body?_array, nestedOfJson?_listToJson body]
  | .whereClause body => by
    rw [toJson, ofJson?_record nested rfl]
    simp [decode?, body?_array, nestedOfJson?_listToJson body]
  | .setClause body => by
    rw [toJson, ofJson?_record nested rfl]
    simp [decode?, body?_array, nestedOfJson?_listToJson body]
  | .bind name value => by
    rw [toJson, ofJson?_record nested rfl]
    rfl

/-- Directives that are written inside another one are read as themselves. -/
lemma nestedOfJson?_listToJson : ∀ ds : List Directive, nestedOfJson? (listToJson ds) = some ds
  | [] => by rw [listToJson, nestedOfJson?]
  | d :: rest => by
    rw [listToJson, nestedOfJson?, ofJson?_toJson true d, nestedOfJson?_listToJson rest]

/-- Branches that are written are read as themselves. -/
lemma branchListOfJson?_branchesToJson : ∀ branches : List (Text × List Directive),
    branchListOfJson? (branchesToJson branches) = some branches
  | [] => by rw [branchesToJson, branchListOfJson?]
  | (test, body) :: rest => by
    rw [branchesToJson, branchListOfJson?, branchOfJson?_object, nestedOfJson?_listToJson body,
      branchListOfJson?_branchesToJson rest]
    rfl

end

lemma listToJson_eq_map (ds : List Directive) : listToJson ds = ds.map toJson := by
  induction ds with
  | nil => rfl
  | cons d rest ih => rw [listToJson, ih, List.map_cons]

lemma listOfJson?_listToJson (ds : List Directive) :
    listOfJson? (.array (listToJson ds)) = some ds := by
  rw [listOfJson?, asArray?, Option.bind_some, listToJson_eq_map]
  induction ds with
  | nil => rfl
  | cons d rest ih =>
    rw [List.map_cons, List.mapM_cons, ofJson?_toJson false d, ih]
    rfl

/-- **Directives come back from JSON as they were.** Any directives that are written are read as
themselves, so a document that says directives says the same when they are read and written again;
and so does each directive alone, inside another one or not. Fields that are null may be left out of
an object that says a directive, and put in, without a difference. -/
theorem read_written :
    (∀ ds, listOfJson? (.array (listToJson ds)) = some ds) ∧
    (∀ json, (listOfJson? json).bind (fun ds => listOfJson? (.array (listToJson ds))) =
      listOfJson? json) ∧
    (∀ nested d, ofJson? nested d.toJson = some d) ∧
    (∀ nested fields others, (fields.map Prod.fst).Nodup → (others.map Prod.fst).Nodup →
      presentFields fields = presentFields others →
      ofJson? nested (.object fields) = ofJson? nested (.object others)) := by
  refine ⟨listOfJson?_listToJson, fun json => ?_, ofJson?_toJson, ?_⟩
  · cases hread : listOfJson? json with
    | none => rfl
    | some ds => exact listOfJson?_listToJson ds
  · intro nested fields others hfields hothers hpresent
    rw [← ofJson?_presentFields nested hfields, hpresent, ofJson?_presentFields nested hothers]

/-- A loop comes back, also from an object that says its collection and body alone. -/
theorem read_written_loop :
    let loop := Directive.loop ⟨"ids".toList, none, none, none, none, none⟩ [.text "?".toList]
    listOfJson? (.array (listToJson [loop])) = some [loop] ∧
      ofJson? true (.object [("type".toList, .string "foreach".toList),
        ("collection".toList, .string "ids".toList),
        ("body".toList, .array (listToJson [.text "?".toList]))]) = some loop := by
  intro loop
  obtain ⟨hlist, -, hone, hpresent⟩ := read_written
  refine ⟨hlist [loop], ?_⟩
  rw [← hone true loop, toJson, record]
  exact hpresent true _ _ (by decide) (by decide) rfl

end Directive

end DynamicSql
