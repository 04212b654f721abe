import DynamicSql.Value
import Mathlib.Tactic.Lemma

/-!
# The floating-point numbers in a value

A value holds other values at any depth, so what is true of all values is shown of arrays and
objects from what is true of their elements and fields (`Value.induction`). The numbers that make a
difference for values as a whole are the floating-point numbers: one that is not a number equals
nothing, and one that is not finite is nothing in JSON. `floats` lists them.
-/

namespace DynamicSql.Value

/-- Induction over values: an array or an object has a property if all values in it have it. -/
@[elab_as_elim, induction_eliminator]
theorem induction {P : Value → Prop} (null : P .null) (boolean : ∀ b, P (.boolean b))
    (integer : ∀ n, P (.integer n)) (float : ∀ x, P (.float x)) (string : ∀ s, P (.string s))
    (array : ∀ items, (∀ v ∈ items, P v) → P (.array items))
    (object : ∀ fields, (∀ f ∈ fields, P f.2) → P (.object fields)) (v : Value) : P v := by
  refine Value.rec (motive_1 := P) (motive_2 := fun items => ∀ v ∈ items, P v)
    (motive_3 := fun fields => ∀ f ∈ fields, P f.2) (motive_4 := fun f => P f.2)
    null boolean integer float string array object ?_ ?_ ?_ ?_ ?_ v
  · exact nofun
  · intro v items hv hitems
    exact List.forall_mem_cons.2 ⟨hv, hitems⟩
  · exact nofun
  · intro f fields hf hfields
    exact List.forall_mem_cons.2 ⟨hf, hfields⟩
  · intro name v hv
    exact hv

mutual

/-- The floating-point numbers in a value, in order. -/
def floats : Value → List Float
  | float x => [x]
  | array items => itemFloats items
  | object fields => fieldFloats fields
  | _ => []

/-- The floating-point numbers in several values. -/
def itemFloats : List Value → List Float
  | [] => []
  | item :: rest => item.floats ++ itemFloats rest

/-- The floating-point numbers in the values of fields. -/
def fieldFloats : List (Text × Value) → List Float
  | [] => []
  | (_, value) :: rest => value.floats ++ fieldFloats rest

end

lemma mem_itemFloats {items : List Value} {x : Float} :
    x ∈ itemFloats items ↔ ∃ v ∈ items, x ∈ v.floats := by
  induction items with
  | nil => simp [itemFloats]
  | cons item rest ih => simp [itemFloats, ih]

lemma mem_fieldFloats {fields : List (Text × Value)} {x : Float} :
    x ∈ fieldFloats fields ↔ ∃ f ∈ fields, x ∈ f.2.floats := by
  induction fields with
  | nil => simp [fieldFloats]
  | cons field rest ih =>
    obtain ⟨name, value⟩ := field
    simp [fieldFloats, ih]

/-- What is true of the numbers in an array is true of those in its elements. -/
lemma forall_floats_array {P : Float → Prop} {items : List Value} :
    (∀ x ∈ (array items).floats, P x) ↔ ∀ v ∈ items, ∀ x ∈ v.floats, P x := by
  simp only [floats, mem_itemFloats]
  exact ⟨fun h v hv x hx => h x ⟨v, hv, hx⟩, fun h x ⟨v, hv, hx⟩ => h v hv x hx⟩

/-- What is true of the numbers in an object is true of those in its fields. -/
lemma forall_floats_object {P : Float → Prop} {fields : List (Text × Value)} :
    (∀ x ∈ (object fields).floats, P x) ↔ ∀ f ∈ fields, ∀ x ∈ f.2.floats, P x := by
  simp only [floats, mem_fieldFloats]
  exact ⟨fun h f hf x hx => h x ⟨f, hf, hx⟩, fun h x ⟨f, hf, hx⟩ => h f hf x hx⟩

end DynamicSql.Value
