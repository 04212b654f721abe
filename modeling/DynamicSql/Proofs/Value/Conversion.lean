import DynamicSql.Proofs.Number.Reading
import DynamicSql.Proofs.Value.Floats

/-!
# Values as JSON and back

JSON has no word for a number that is not finite. Null stands in its place, and everything else is
said as it is, down to the two kinds of numbers; so what comes back is the value with null for the
numbers that are not finite (`finitePart`).

The fields of an object may stand in any order in JSON, and a name may stand there twice, while a
value lists each name once and in order (`Ordered`). Documents are put into this form when they
become values (`ordered_ofDocument`), which changes nothing where a value has become a document
(`canonical_toJson`).
-/

namespace DynamicSql

/-! ## Fields in order -/

namespace Table

variable {α : Type}

/-- An entry whose name is greater than all others goes to the end. -/
lemma insertEntry_of_lt {name : Text} {value : α} {l : List (Text × α)}
    (h : ∀ f ∈ l, f.1 < name) : insertEntry name value l = l ++ [(name, value)] := by
  induction l with
  | nil => rfl
  | cons field rest ih =>
    obtain ⟨hlt, hrest⟩ := List.forall_mem_cons.1 h
    have hne : name ≠ field.1 := fun heq => List.lt_irrefl _ (heq ▸ hlt)
    rw [insertEntry, if_neg (List.lt_asymm hlt), if_neg hne, ih hrest]
    rfl

end Table

namespace Json

/-- Induction over documents: an array or an object has a property if all documents in it have
it. -/
@[elab_as_elim, induction_eliminator]
theorem induction {P : Json → Prop} (null : P .null) (boolean : ∀ b, P (.boolean b))
    (integer : ∀ n, P (.integer n)) (float : ∀ x, P (.float x)) (string : ∀ s, P (.string s))
    (array : ∀ items, (∀ j ∈ items, P j) → P (.array items))
    (object : ∀ fields, (∀ f ∈ fields, P f.2) → P (.object fields)) (json : Json) : P json := by
  refine @Json.rec P (fun items => ∀ j ∈ items, P j) (fun fields => ∀ f ∈ fields, P f.2)
    (fun f => P f.2) null boolean integer float string array object ?_ ?_ ?_ ?_ ?_ json
  · exact nofun
  · intro j items hj hitems
    exact List.forall_mem_cons.2 ⟨hj, hitems⟩
  · exact nofun
  · intro f fields hf hfields
    exact List.forall_mem_cons.2 ⟨hf, hfields⟩
  · intro name j hj
    exact hj

lemma canonicalItems_eq_map (items : List Json) : canonicalItems items = items.map canonical := by
  induction items with
  | nil => rfl
  | cons item rest ih => rw [canonicalItems, ih, List.map_cons]

/-- Fields in order stay where they are. -/
lemma canonicalFields_of_sorted {sorted fields : List (Text × Json)}
    (h : ((sorted ++ fields).map Prod.fst).Pairwise (· < ·)) :
    canonicalFields sorted fields = sorted ++ fields.map fun f => (f.1, f.2.canonical) := by
  induction fields generalizing sorted with
  | nil => rw [canonicalFields, List.map_nil, List.append_nil]
  | cons field rest ih =>
    obtain ⟨name, json⟩ := field
    have hlast : ∀ f ∈ sorted, f.1 < name := by
      intro f hf
      rw [List.map_append, List.pairwise_append] at h
      exact h.2.2 f.1 (List.mem_map_of_mem hf) name List.mem_cons_self
    have hnext : ((sorted ++ [(name, json.canonical)] ++ rest).map Prod.fst).Pairwise (· < ·) := by
      simpa using h
    rw [canonicalFields, Table.insertEntry_of_lt hlast, ih hnext]
    simp

lemma pairwise_canonicalFields {sorted fields : List (Text × Json)}
    (h : sorted.Pairwise (fun a b => a.1 < b.1)) :
    (canonicalFields sorted fields).Pairwise (fun a b => a.1 < b.1) := by
  induction fields generalizing sorted with
  | nil => exact h
  | cons field rest ih => exact ih (Table.pairwise_insertEntry h)

/-- What is true of the fields before and of those that are inserted is true of all. -/
lemma forall_mem_canonicalFields {P : Json → Prop} {sorted fields : List (Text × Json)}
    (hsorted : ∀ f ∈ sorted, P f.2) (hfields : ∀ f ∈ fields, P f.2.canonical) :
    ∀ f ∈ canonicalFields sorted fields, P f.2 := by
  induction fields generalizing sorted with
  | nil => exact hsorted
  | cons field rest ih =>
    obtain ⟨hfield, hrest⟩ := List.forall_mem_cons.1 hfields
    refine ih ?_ hrest
    intro f hf
    rcases Table.name_of_mem_insertEntry hf with rfl | hf
    · exact hfield
    · exact hsorted f hf

end Json

namespace Value

variable {v : Value}

/-- The fields of every object in the value have different names, in order. -/
inductive Ordered : Value → Prop
  | scalar {v : Value} (h : v.isScalar) : Ordered v
  | array {items : List Value} (h : ∀ v ∈ items, Ordered v) : Ordered (.array items)
  | object {fields : List (Text × Value)} (hnames : fields.Pairwise (fun a b => a.1 < b.1))
      (h : ∀ f ∈ fields, Ordered f.2) : Ordered (.object fields)

/-! ## Values as lists of values -/

lemma toJsonItems_eq_map (items : List Value) : toJsonItems items = items.map toJson := by
  induction items with
  | nil => rfl
  | cons item rest ih => rw [toJsonItems, ih, List.map_cons]

lemma toJsonFields_eq_map (fields : List (Text × Value)) :
    toJsonFields fields = fields.map fun f => (f.1, f.2.toJson) := by
  induction fields with
  | nil => rfl
  | cons field rest ih => rw [toJsonFields, ih, List.map_cons]

lemma ofJsonItems_eq_map (items : List Json) : ofJsonItems items = items.map ofJson := by
  induction items with
  | nil => rfl
  | cons item rest ih => rw [ofJsonItems, ih, List.map_cons]

lemma ofJsonFields_eq_map (fields : List (Text × Json)) :
    ofJsonFields fields = fields.map fun f => (f.1, ofJson f.2) := by
  induction fields with
  | nil => rfl
  | cons field rest ih => rw [ofJsonFields, ih, List.map_cons]

/-! ## Documents in canonical form -/

/-- **The document of a value is in canonical form.** -/
lemma canonical_toJson (h : v.Ordered) : v.toJson.canonical = v.toJson := by
  induction h with
  | @scalar v h =>
    cases v with
    | float x =>
      rw [toJson]
      split <;> rfl
    | array items => cases h
    | object fields => cases h
    | _ => rfl
  | @array items h ih =>
    rw [toJson, Json.canonical, Json.canonicalItems_eq_map, toJsonItems_eq_map, List.map_map]
    congr 1
    exact List.map_congr_left ih
  | @object fields hnames h ih =>
    have hsorted : (([] ++ toJsonFields fields).map Prod.fst).Pairwise (· < ·) := by
      rw [List.nil_append, toJsonFields_eq_map, List.map_map, List.pairwise_map]
      exact hnames
    rw [toJson, Json.canonical, Json.canonicalFields_of_sorted hsorted, List.nil_append,
      toJsonFields_eq_map, List.map_map]
    congr 1
    refine List.map_congr_left fun f hf => ?_
    exact congrArg (Prod.mk f.1) (ih f hf)

/-- **Every value that a document stands for is ordered.** -/
theorem ordered_ofDocument (json : Json) : (ofDocument json).Ordered := by
  rw [ofDocument]
  induction json with
  | array items ih =>
    rw [Json.canonical, ofJson, ofJsonItems_eq_map, Json.canonicalItems_eq_map]
    refine .array ?_
    simpa using ih
  | object fields ih =>
    rw [Json.canonical, ofJson, ofJsonFields_eq_map]
    refine .object ?_ ?_
    · rw [List.pairwise_map]
      exact Json.pairwise_canonicalFields .nil
    · rw [List.forall_mem_map]
      exact Json.forall_mem_canonicalFields (P := fun json => (ofJson json).Ordered) (by simp) ih
  | _ => exact .scalar rfl

/-! ## There and back -/

mutual

/-- The value with null for the numbers that are not finite. -/
def finitePart : Value → Value
  | float x => if x.isFinite then float x else null
  | array items => array (finiteItems items)
  | object fields => object (finiteFields fields)
  | v => v

/-- The elements of an array with null for the numbers that are not finite. -/
def finiteItems : List Value → List Value
  | [] => []
  | item :: rest => item.finitePart :: finiteItems rest

/-- The fields of an object with null for the numbers that are not finite. -/
def finiteFields : List (Text × Value) → List (Text × Value)
  | [] => []
  | (name, value) :: rest => (name, value.finitePart) :: finiteFields rest

end

lemma finiteItems_eq_map (items : List Value) : finiteItems items = items.map finitePart := by
  induction items with
  | nil => rfl
  | cons item rest ih => rw [finiteItems, ih, List.map_cons]

lemma finiteFields_eq_map (fields : List (Text × Value)) :
    finiteFields fields = fields.map fun f => (f.1, f.2.finitePart) := by
  induction fields with
  | nil => rfl
  | cons field rest ih => rw [finiteFields, ih, List.map_cons]

lemma isFinite_eq (x : Float) : isFinite x = x.isFinite := by
  rw [Bool.eq_iff_iff, ← Number.exists_extended?_iff, isFinite, Number.extended?]
  cases Number.Reading.ofFloat x <;> simp [Number.Reading.extended?]

/-- **What comes back from JSON.** -/
lemma ofJson_toJson (v : Value) : ofJson v.toJson = v.finitePart := by
  induction v with
  | float x =>
    rw [toJson, finitePart, isFinite_eq]
    split <;> rfl
  | array items ih =>
    rw [toJson, ofJson, finitePart, toJsonItems_eq_map, ofJsonItems_eq_map, finiteItems_eq_map,
      List.map_map]
    congr 1
    exact List.map_congr_left ih
  | object fields ih =>
    rw [toJson, ofJson, finitePart, toJsonFields_eq_map, ofJsonFields_eq_map, finiteFields_eq_map,
      List.map_map]
    congr 1
    refine List.map_congr_left fun f hf => ?_
    exact congrArg (Prod.mk f.1) (ih f hf)
  | _ => rfl

/-- A value whose numbers are finite is left as it is. -/
lemma finitePart_eq_self (h : ∀ x ∈ v.floats, x.isFinite) : v.finitePart = v := by
  induction v with
  | float x =>
    rw [finitePart, if_pos (h x List.mem_cons_self)]
  | array items ih =>
    rw [forall_floats_array] at h
    rw [finitePart, finiteItems_eq_map]
    congr 1
    exact (List.map_congr_left fun v hv => ih v hv (h v hv)).trans (List.map_id' items)
  | object fields ih =>
    rw [forall_floats_object] at h
    rw [finitePart, finiteFields_eq_map]
    congr 1
    refine (List.map_congr_left fun f hf => ?_).trans (List.map_id' fields)
    exact congrArg (Prod.mk f.1) (ih f hf (h f hf))
  | _ => rfl

/-- **The numbers that are kept are the finite ones, in order.** -/
lemma floats_finitePart (v : Value) : v.finitePart.floats = v.floats.filter Float.isFinite := by
  induction v with
  | float x =>
    rw [finitePart]
    split <;> simp_all [floats]
  | array items ih =>
    rw [finitePart, floats, floats]
    induction items with
    | nil => rfl
    | cons item rest ihrest =>
      obtain ⟨hitem, hrest⟩ := List.forall_mem_cons.1 ih
      rw [finiteItems, itemFloats, itemFloats, List.filter_append, hitem, ihrest hrest]
  | object fields ih =>
    rw [finitePart, floats, floats]
    induction fields with
    | nil => rfl
    | cons field rest ihrest =>
      obtain ⟨hfield, hrest⟩ := List.forall_mem_cons.1 ih
      rw [finiteFields, fieldFloats, fieldFloats, List.filter_append, hfield, ihrest hrest]
  | _ => rfl

lemma isFinite_of_mem_floats_finitePart : ∀ x ∈ v.finitePart.floats, x.isFinite := by
  intro x hx
  rw [floats_finitePart] at hx
  exact (List.mem_filter.1 hx).2

/-- **JSON loses the numbers that are not finite, and nothing else.** A value that becomes a
document and a value again has null for its numbers that are not finite and is otherwise the same;
so it is the same altogether if all its numbers are finite, and a second time changes nothing. The
document lists the fields of a value as they are, so that it makes no difference whether it is put
in order before it becomes a value again. -/
theorem ofJson_toJson_keeps (v : Value) :
    ofJson v.toJson = v.finitePart ∧
    v.finitePart.floats = v.floats.filter Float.isFinite ∧
    ((∀ x ∈ v.floats, x.isFinite) → ofJson v.toJson = v) ∧
    ofJson (ofJson v.toJson).toJson = ofJson v.toJson ∧
    (v.Ordered → ofDocument v.toJson = ofJson v.toJson ∧ (ofJson v.toJson).Ordered) := by
  have hback := ofJson_toJson v
  refine ⟨hback, floats_finitePart v, fun hfinite => ?_, ?_, fun hordered => ?_⟩
  · rw [hback, finitePart_eq_self hfinite]
  · rw [hback, ofJson_toJson, finitePart_eq_self isFinite_of_mem_floats_finitePart]
  · have hdocument : ofDocument v.toJson = ofJson v.toJson :=
      congrArg ofJson (canonical_toJson hordered)
    exact ⟨hdocument, hdocument ▸ ordered_ofDocument v.toJson⟩

/-- The whole number one and the floating-point number one come back as they are, and null comes
back for a number that is not one. -/
theorem ofJson_toJson_keeps_nested :
    let v := object [("a".toList, array [float Number.nan, integer 1]), ("b".toList, float 1.0)]
    let w := object [("a".toList, array [null, integer 1]), ("b".toList, float 1.0)]
    ofJson v.toJson = w ∧ ofJson w.toJson = w ∧ v.Ordered ∧ ofDocument v.toJson = w := by
  intro v w
  have hnan : Number.nan.isFinite = false := by decide +kernel
  have hone : (1.0 : Float).isFinite = true := by decide +kernel
  have hnames : "a".toList < "b".toList := by decide
  have hordered : v.Ordered := by
    refine .object (List.pairwise_pair.2 hnames) ?_
    simp only [List.forall_mem_cons]
    refine ⟨.array ?_, .scalar rfl, nofun⟩
    simp only [List.forall_mem_cons]
    exact ⟨.scalar rfl, .scalar rfl, nofun⟩
  have hpart : v.finitePart = w := by
    simp [v, w, finitePart, finiteFields, finiteItems, hnan, hone]
  have hfinite : ∀ x ∈ w.floats, x.isFinite := by
    simp [w, floats, fieldFloats, itemFloats, hone]
  obtain ⟨hback, -, -, -, hdocument⟩ := ofJson_toJson_keeps v
  obtain ⟨-, -, hkept, -⟩ := ofJson_toJson_keeps w
  have hw : ofJson v.toJson = w := hback.trans hpart
  exact ⟨hw, hkept hfinite, hordered, (hdocument hordered).1.trans hw⟩

end Value

end DynamicSql
