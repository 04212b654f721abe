import DynamicSql.Json.Basic

/-!
# Records in JSON

A record has a fixed list of fields. It is written as an object, in which a field may be missing
but not stand twice, or as an array of the fields in their order, in which fields may be missing
at the end. Fields of other names are a matter of the reader.

Reading a record finds, for each of its fields, the document that stands for it. That document
is smaller than the record (`sizeOf_of_some_mem_arguments?`), so readers of nested records end.
-/

namespace DynamicSql.Json

/-- The field of a name: none inside if there is none, and no answer if there are several. -/
def fieldOnce? (name : Text) (fields : List (Text × Json)) : Option (Option Json) :=
  match fields.filter (fun f => f.1 = name) with
  | [] => some none
  | [(_, value)] => some (some value)
  | _ => none

/-- The fields of an object, in the order of their names. -/
def namedArguments? (fields : List (Text × Json)) : List Text → Option (List (Option Json))
  | [] => some []
  | name :: names =>
    (fieldOnce? name fields).bind fun field =>
      (namedArguments? fields names).map (field :: ·)

/-- The elements of an array, for as many fields as there are. -/
def listedArguments? : List Json → List Text → Option (List (Option Json))
  | [], names => some (names.map fun _ => none)
  | _ :: _, [] => none
  | item :: items, _ :: names => (listedArguments? items names).map (some item :: ·)

/-- The fields of a record. -/
def arguments? (names : List Text) : Json → Option (List (Option Json))
  | .object fields => namedArguments? fields names
  | .array items => listedArguments? items names
  | _ => none

/-- The text of an optional field, which may be missing or null. -/
def optionalText? : Option Json → Option (Option Text)
  | none | some .null => some none
  | some (.string s) => some (some s)
  | some _ => none

/-- A field that is neither missing nor null. -/
def present? : Option Json → Option Json
  | none | some .null => none
  | some json => some json

/-- An optional text as a field. -/
def ofOptionalText : Option Text → Json
  | some s => .string s
  | none => .null

/-! ## Fields are smaller than their record -/

theorem sizeOf_of_fieldOnce? {name : Text} {fields : List (Text × Json)} {value : Json}
    (h : fieldOnce? name fields = some (some value)) : sizeOf value < sizeOf fields := by
  have hmem : ∃ key, (key, value) ∈ fields := by
    unfold fieldOnce? at h
    split at h
    · cases h
    · next key v heq =>
      obtain rfl := by simpa using h
      exact ⟨key, (List.mem_filter.1 (heq ▸ List.mem_singleton_self _)).1⟩
    · cases h
  obtain ⟨key, hkey⟩ := hmem
  have := List.sizeOf_lt_of_mem hkey
  simp only [Prod.mk.sizeOf_spec] at this
  omega

theorem sizeOf_of_mem_namedArguments? {fields : List (Text × Json)} {names : List Text}
    {arguments : List (Option Json)} {value : Json}
    (h : namedArguments? fields names = some arguments) (hmem : some value ∈ arguments) :
    sizeOf value < sizeOf fields := by
  induction names generalizing arguments with
  | nil => cases h; cases hmem
  | cons name names ih =>
    simp only [namedArguments?] at h
    obtain ⟨field, hfield, h⟩ := Option.bind_eq_some_iff.1 h
    obtain ⟨rest, hrest, rfl⟩ := Option.map_eq_some_iff.1 h
    rcases List.mem_cons.1 hmem with rfl | hmem
    · exact sizeOf_of_fieldOnce? hfield
    · exact ih hrest hmem

theorem sizeOf_of_mem_listedArguments? {items : List Json} {names : List Text}
    {arguments : List (Option Json)} {value : Json}
    (h : listedArguments? items names = some arguments) (hmem : some value ∈ arguments) :
    sizeOf value < sizeOf items := by
  induction items generalizing names arguments with
  | nil =>
    simp only [listedArguments?, Option.some.injEq] at h
    subst h
    simp at hmem
  | cons item items ih =>
    cases names with
    | nil => cases h
    | cons name names =>
      obtain ⟨rest, hrest, rfl⟩ := Option.map_eq_some_iff.1 h
      rcases List.mem_cons.1 hmem with heq | hmem
      · cases heq; simp only [List.cons.sizeOf_spec]; omega
      · have := ih hrest hmem
        simp only [List.cons.sizeOf_spec]; omega

/-- **A field is smaller than its record.** -/
theorem sizeOf_of_some_mem_arguments? {names : List Text} {json value : Json}
    {arguments : List (Option Json)} (h : json.arguments? names = some arguments)
    (hmem : some value ∈ arguments) : sizeOf value < sizeOf json := by
  cases json with
  | object fields =>
    have := sizeOf_of_mem_namedArguments? h hmem
    simp only [object.sizeOf_spec]; omega
  | array items =>
    have := sizeOf_of_mem_listedArguments? h hmem
    simp only [array.sizeOf_spec]; omega
  | _ => cases h

end DynamicSql.Json
