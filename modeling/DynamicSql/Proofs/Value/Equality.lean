import DynamicSql.Proofs.Number.Reading
import DynamicSql.Proofs.Value.Floats

/-!
# Equality of structure

Equality of structure does not depend on the order of its sides (`beq_comm`), and two values that
equal a third are equal (`beq_trans`). A value equals itself unless there is something in it that is
not a number (`beq_self`). Arrays and objects inherit all of this from what they hold.
-/

namespace DynamicSql

namespace Number

/-! ## Floating-point numbers -/

lemma float_beq_self {x : Float} (h : ¬x.isNaN) : x == x :=
  beq_iff.2 ⟨rfl, fun hnone => h (extended?_eq_none_iff.1 hnone)⟩

lemma float_beq_symm {x y : Float} (h : x == y) : y == x := by
  obtain ⟨hsame, hsome⟩ := beq_iff.1 h
  exact beq_iff.2 ⟨hsame.symm, hsame ▸ hsome⟩

lemma float_beq_comm (x y : Float) : (x == y) = (y == x) :=
  Bool.eq_iff_iff.2 ⟨float_beq_symm, float_beq_symm⟩

lemma float_beq_trans {x y z : Float} (hxy : x == y) (hyz : y == z) : x == z := by
  obtain ⟨hsame, hsome⟩ := beq_iff.1 hxy
  exact beq_iff.2 ⟨hsame.trans (beq_iff.1 hyz).1, hsome⟩

end Number

namespace Value

variable {a b c : Value}

/-! ## A value and itself -/

lemma beqItems_self {items : List Value} (h : ∀ v ∈ items, v.beq v) :
    Value.beqItems items items := by
  induction items with
  | nil => rfl
  | cons v rest ih =>
    obtain ⟨hv, hrest⟩ := List.forall_mem_cons.1 h
    rw [Value.beqItems, hv, ih hrest, Bool.and_self]

lemma beqFields_self {fields : List (Text × Value)} (h : ∀ f ∈ fields, f.2.beq f.2) :
    Value.beqFields fields fields := by
  induction fields with
  | nil => rfl
  | cons f rest ih =>
    obtain ⟨hf, hrest⟩ := List.forall_mem_cons.1 h
    rw [Value.beqFields, hf, ih hrest, beq_self_eq_true, Bool.and_self, Bool.and_self]

/-- **A value equals itself** if everything in it is a number. -/
theorem beq_self (h : ∀ x ∈ a.floats, ¬x.isNaN) : a.beq a := by
  induction a with
  | null => rfl
  | boolean b => exact beq_self_eq_true b
  | integer n => exact beq_self_eq_true n
  | float x => exact Number.float_beq_self (h x (List.mem_singleton_self x))
  | string s => exact beq_self_eq_true s
  | array items ih =>
    exact beqItems_self fun v hv => ih v hv (forall_floats_array.1 h v hv)
  | object fields ih =>
    exact beqFields_self fun f hf => ih f hf (forall_floats_object.1 h f hf)

/-! ## Two sides -/

lemma beqItems_comm {as : List Value} (h : ∀ a ∈ as, ∀ b, a.beq b = b.beq a) (bs : List Value) :
    Value.beqItems as bs = Value.beqItems bs as := by
  induction as generalizing bs with
  | nil => cases bs <;> rfl
  | cons a as ih =>
    obtain ⟨ha, has⟩ := List.forall_mem_cons.1 h
    cases bs with
    | nil => rfl
    | cons b bs => rw [Value.beqItems, Value.beqItems, ha, ih has]

lemma beqFields_comm {as : List (Text × Value)} (h : ∀ f ∈ as, ∀ b, f.2.beq b = b.beq f.2)
    (bs : List (Text × Value)) : Value.beqFields as bs = Value.beqFields bs as := by
  induction as generalizing bs with
  | nil => cases bs <;> rfl
  | cons f as ih =>
    obtain ⟨hf, has⟩ := List.forall_mem_cons.1 h
    cases bs with
    | nil => rfl
    | cons g bs => rw [Value.beqFields, Value.beqFields, hf, ih has, Bool.beq_comm]

/-- **Equality does not depend on the order of its sides.** -/
theorem beq_comm (a b : Value) : a.beq b = b.beq a := by
  induction a generalizing b with
  | null => cases b <;> rfl
  | boolean t =>
    cases b with
    | boolean u => exact Bool.beq_comm
    | _ => rfl
  | integer m =>
    cases b with
    | integer n => exact Bool.beq_comm
    | _ => rfl
  | float x =>
    cases b with
    | float y => exact Number.float_beq_comm x y
    | _ => rfl
  | string s =>
    cases b with
    | string t => exact Bool.beq_comm
    | _ => rfl
  | array items ih =>
    cases b with
    | array others => exact beqItems_comm ih others
    | _ => rfl
  | object fields ih =>
    cases b with
    | object others => exact beqFields_comm ih others
    | _ => rfl

/-! ## Three values -/

lemma beqItems_trans {as : List Value}
    (h : ∀ a ∈ as, ∀ b c : Value, a.beq b → b.beq c → a.beq c) {bs cs : List Value}
    (hab : Value.beqItems as bs) (hbc : Value.beqItems bs cs) : Value.beqItems as cs := by
  induction as generalizing bs cs with
  | nil =>
    cases bs with
    | nil => exact hbc
    | cons b bs => cases hab
  | cons a as ih =>
    obtain ⟨ha, has⟩ := List.forall_mem_cons.1 h
    cases bs with
    | nil => cases hab
    | cons b bs =>
      cases cs with
      | nil => cases hbc
      | cons c cs =>
        simp only [Value.beqItems, Bool.and_eq_true] at hab hbc ⊢
        exact ⟨ha b c hab.1 hbc.1, ih has hab.2 hbc.2⟩

lemma beqFields_trans {as : List (Text × Value)}
    (h : ∀ f ∈ as, ∀ b c : Value, f.2.beq b → b.beq c → f.2.beq c) {bs cs : List (Text × Value)}
    (hab : Value.beqFields as bs) (hbc : Value.beqFields bs cs) : Value.beqFields as cs := by
  induction as generalizing bs cs with
  | nil =>
    cases bs with
    | nil => exact hbc
    | cons b bs => cases hab
  | cons f as ih =>
    obtain ⟨hf, has⟩ := List.forall_mem_cons.1 h
    cases bs with
    | nil => cases hab
    | cons g bs =>
      cases cs with
      | nil => cases hbc
      | cons i cs =>
        simp only [Value.beqFields, Bool.and_eq_true, beq_iff_eq] at hab hbc ⊢
        obtain ⟨⟨hfg, hvalues⟩, has'⟩ := hab
        obtain ⟨⟨hgi, hvalues'⟩, hbs⟩ := hbc
        exact ⟨⟨hfg.trans hgi, hf g.2 i.2 hvalues hvalues'⟩, ih has has' hbs⟩

/-- **Values that equal a third are equal.** -/
theorem beq_trans (hab : a.beq b) (hbc : b.beq c) : a.beq c := by
  induction a generalizing b c with
  | null =>
    cases b with
    | null => exact hbc
    | _ => cases hab
  | boolean t =>
    cases b with
    | boolean u => rwa [eq_of_beq hab]
    | _ => cases hab
  | integer m =>
    cases b with
    | integer n => rwa [eq_of_beq hab]
    | _ => cases hab
  | float x =>
    cases b with
    | float y =>
      cases c with
      | float z => exact Number.float_beq_trans hab hbc
      | _ => cases hbc
    | _ => cases hab
  | string s =>
    cases b with
    | string t => rwa [eq_of_beq hab]
    | _ => cases hab
  | array items ih =>
    cases b with
    | array others =>
      cases c with
      | array more => exact beqItems_trans (fun v hv b c => ih v hv) hab hbc
      | _ => cases hbc
    | _ => cases hab
  | object fields ih =>
    cases b with
    | object others =>
      cases c with
      | object more => exact beqFields_trans (fun f hf b c => ih f hf) hab hbc
      | _ => cases hbc
    | _ => cases hab

end Value

end DynamicSql
