import DynamicSql.Eval
import DynamicSql.Proofs.Number.Whole
import DynamicSql.Proofs.Value.Equality

/-!
# Equality of values

Equality treats both kinds of numbers as one: two whole numbers are compared as they are, and a
whole number is compared with a floating-point number as the floating-point number it becomes. That
is an equivalence but for one case (`eval_equality`). Large whole numbers lose digits when they
become floating-point numbers, so two different ones may equal the same floating-point number
(`Conflated`), and do not equal each other for that (`equality_not_transitive`). Whole numbers of at
most `2 ^ 53` in magnitude lose none.
-/

namespace DynamicSql

namespace Eval

variable {a b c : Value}

/-- Two different whole numbers that become the floating-point number between them. -/
inductive Conflated : Value → Value → Value → Prop
  | mk {m n : Int64} {x : Float} (hne : m ≠ n) (hm : Number.ofInt64 m == x)
      (hn : Number.ofInt64 n == x) : Conflated (.integer m) (.float x) (.integer n)

/-! ## Numbers and other values -/

/-- Where a side is no number, equality is one of structure. -/
lemma equal_of_not_number (h : a.asFloat? = none ∨ b.asFloat? = none) : equal a b = a.beq b := by
  cases a <;> cases b <;> first | rfl | rcases h with h | h <;> cases h

lemma not_number_of_beq (h : a.asFloat? = none) (hab : a.beq b) : b.asFloat? = none := by
  cases a <;> cases b <;> first | rfl | cases hab | cases h

/-- A whole number that loses no digits equals the floating-point numbers that stand for it. -/
lemma equal_integer_float {n : Int64} {x : Float} (h : n.toInt.natAbs ≤ 2 ^ 53) :
    equal (.integer n) (.float x) ↔ Number.extended? x = some (.finite n.toInt) := by
  have hn := Number.extended?_ofInt h
  change (Number.ofInt64 n == x) = true ↔ _
  rw [Number.beq_iff, Number.ofInt64, hn]
  exact ⟨fun h => h.1.symm, fun h => ⟨h.symm, nofun⟩⟩

/-! ## Laws -/

lemma equal_self (h : ∀ x ∈ a.floats, ¬x.isNaN) : equal a a := by
  cases a <;> exact Value.beq_self h

lemma equal_comm (a b : Value) : equal a b = equal b a := by
  by_cases h : a.asFloat? = none ∨ b.asFloat? = none
  · rw [equal_of_not_number h, equal_of_not_number h.symm, Value.beq_comm]
  · obtain ⟨ha, hb⟩ := not_or.1 h
    cases a with
    | integer m =>
      cases b with
      | integer n => exact Bool.beq_comm
      | float x => exact Number.float_beq_comm _ _
      | _ => exact absurd rfl hb
    | float x =>
      cases b with
      | integer n => exact Number.float_beq_comm _ _
      | float y => exact Number.float_beq_comm _ _
      | _ => exact absurd rfl hb
    | _ => exact absurd rfl ha

lemma equal_trans_of_not_number (h : a.asFloat? = none) (hab : equal a b) (hbc : equal b c) :
    equal a c := by
  rw [equal_of_not_number (.inl h)] at hab ⊢
  rw [equal_of_not_number (.inl (not_number_of_beq h hab))] at hbc
  exact Value.beq_trans hab hbc

/-- Values that equal a third are equal, unless they are whole numbers and the third is not. -/
lemma equal_trans (h : ¬Conflated a b c) (hab : equal a b) (hbc : equal b c) : equal a c := by
  cases a with
  | integer m =>
    cases b with
    | integer n => rwa [eq_of_beq hab]
    | float x =>
      cases c with
      | integer n =>
        by_contra hne
        exact h (.mk (ne_of_beq_false (Bool.eq_false_of_not_eq_true hne)) hab
          (Number.float_beq_symm hbc))
      | float y => exact Number.float_beq_trans hab hbc
      | _ => cases hbc
    | _ => cases hab
  | float x =>
    cases b with
    | integer m =>
      cases c with
      | integer n => rwa [← eq_of_beq hbc]
      | float y => exact Number.float_beq_trans hab hbc
      | _ => cases hbc
    | float y =>
      cases c with
      | integer n => exact Number.float_beq_trans hab hbc
      | float z => exact Number.float_beq_trans hab hbc
      | _ => cases hbc
    | _ => cases hab
  | _ => exact equal_trans_of_not_number rfl hab hbc

/-! ## Whole numbers that lose digits -/

lemma Conflated.equal (h : Conflated a b c) :
    Eval.equal a b ∧ Eval.equal b c ∧ Eval.equal a c = false := by
  obtain ⟨hne, hm, hn⟩ := h
  exact ⟨hm, Number.float_beq_symm hn, beq_eq_false_iff_ne.2 hne⟩

lemma not_conflated (h : ∀ m, a ≠ .integer m) : ¬Conflated a b c := by
  rintro ⟨-, -, -⟩
  exact h _ rfl

/-- One of the whole numbers is large. -/
lemma Conflated.large (h : Conflated a b c) :
    ∃ m n, a = .integer m ∧ c = .integer n ∧ 2 ^ 53 < max m.toInt.natAbs n.toInt.natAbs := by
  obtain @⟨m, n, x, hne, hm, hn⟩ := h
  refine ⟨m, n, rfl, rfl, ?_⟩
  by_contra hsmall
  have hsame := (Number.beq_iff.1 (Number.float_beq_trans hm (Number.float_beq_symm hn))).1
  rw [Number.ofInt64, Number.ofInt64, Number.extended?_ofInt (by omega),
    Number.extended?_ofInt (by omega)] at hsame
  apply hne
  apply Int64.toInt_inj.1
  simpa using hsame

/-- Equal values are equal to the same elements, but for those that lose digits. -/
lemma any_equal_congr {items : List Value} (h : equal a b)
    (hitems : ∀ v ∈ items, ¬Conflated v a b ∧ ¬Conflated v b a) :
    items.any (equal · a) = items.any (equal · b) := by
  have hitem : ∀ v ∈ items, equal v a = equal v b := by
    intro v hv
    obtain ⟨hab, hba⟩ := hitems v hv
    rw [Bool.eq_iff_iff]
    exact ⟨fun ha => equal_trans hab ha h, fun hb => equal_trans hba hb (equal_comm a b ▸ h)⟩
  induction items with
  | nil => rfl
  | cons v rest ih =>
    obtain ⟨hv, hrest⟩ := List.forall_mem_cons.1 hitem
    rw [List.any_cons, List.any_cons, hv,
      ih (List.forall_mem_cons.1 hitems).2 hrest]

end Eval

namespace Expr

open Eval

variable {bindings : Bindings}

lemma eval_equal {left right : Expr} {a b : Value} (hleft : left.eval bindings = .ok a)
    (hright : right.eval bindings = .ok b) :
    (Expr.binary .equal left right).eval bindings = .ok (.boolean (equal a b)) := by
  simp only [Expr.eval, hleft, hright, Except.bind, Eval.binary]

lemma eval_contains {list needle : Expr} {items : List Value} {a : Value}
    (hlist : list.eval bindings = .ok (.array items)) (hneedle : needle.eval bindings = .ok a) :
    (Expr.call list "contains".toList [needle]).eval bindings =
      .ok (.boolean (items.any (equal · a))) := by
  simp only [Expr.eval, Expr.evalAll, hlist, hneedle, Except.bind, Except.map]
  rfl

/-- **Equality is an equivalence, but for large whole numbers.** A value equals itself if everything
in it is a number, and the answer does not depend on the order of the sides. Values that equal a
third are equal, unless they are two whole numbers that become this third number: these are
different, and one of them is larger than `2 ^ 53`. So equal values are elements of the same lists,
but for lists in which such a whole number stands. A whole number of at most `2 ^ 53` equals a
floating-point number exactly if that stands for it. -/
theorem eval_equality {left middle right list : Expr} {a b c : Value} {items : List Value}
    (hleft : left.eval bindings = .ok a) (hmiddle : middle.eval bindings = .ok b)
    (hright : right.eval bindings = .ok c) (hlist : list.eval bindings = .ok (.array items)) :
    let equal (l r : Expr) := (Expr.binary .equal l r).eval bindings
    let contains (needle : Expr) := (Expr.call list "contains".toList [needle]).eval bindings
    ((∀ x ∈ a.floats, ¬x.isNaN) → equal left left = .ok (.boolean true)) ∧
    (∃ t, equal left right = .ok (.boolean t) ∧ equal right left = .ok (.boolean t)) ∧
    (¬Conflated a b c → equal left middle = .ok (.boolean true) →
      equal middle right = .ok (.boolean true) → equal left right = .ok (.boolean true)) ∧
    (Conflated a b c → equal left middle = .ok (.boolean true) ∧
      equal middle right = .ok (.boolean true) ∧ equal left right = .ok (.boolean false) ∧
      ∃ m n, a = .integer m ∧ c = .integer n ∧ 2 ^ 53 < max m.toInt.natAbs n.toInt.natAbs) ∧
    (equal left right = .ok (.boolean true) →
      (∀ v ∈ items, ¬Conflated v a c ∧ ¬Conflated v c a) →
      ∃ t, contains left = .ok (.boolean t) ∧ contains right = .ok (.boolean t)) ∧
    (∀ n x, a = .integer n → c = .float x → n.toInt.natAbs ≤ 2 ^ 53 →
      (equal left right = .ok (.boolean true) ↔
        Number.extended? x = some (.finite n.toInt))) := by
  intro equal contains
  have hab : equal left middle = .ok (.boolean (Eval.equal a b)) := eval_equal hleft hmiddle
  have hbc : equal middle right = .ok (.boolean (Eval.equal b c)) := eval_equal hmiddle hright
  have hac : equal left right = .ok (.boolean (Eval.equal a c)) := eval_equal hleft hright
  have hca : equal right left = .ok (.boolean (Eval.equal c a)) := eval_equal hright hleft
  have htrue : ∀ t, (.ok (.boolean t) : Except EvalError Value) = .ok (.boolean true) ↔ t := by
    simp
  simp only [hab, hbc, hac, htrue]
  refine ⟨fun hnumbers => ?_, ⟨_, rfl, ?_⟩, equal_trans, fun h => ?_, fun h hitems => ?_, ?_⟩
  · rw [← equal_self hnumbers]
    exact eval_equal hleft hleft
  · rw [hca, equal_comm]
  · obtain ⟨hab, hbc, hac⟩ := h.equal
    exact ⟨hab, hbc, congrArg _ (congrArg _ hac), h.large⟩
  · refine ⟨_, eval_contains hlist hleft, ?_⟩
    rw [any_equal_congr h hitems]
    exact eval_contains hlist hright
  · rintro n x rfl rfl hsmall
    exact equal_integer_float hsmall

/-- Seven equals the floating-point number seven, and both are elements of the same list. -/
theorem eval_equality_seven :
    let seven := Float.ofBits 0x401C000000000000
    let b := Bindings.ofCall (.object [("l".toList, .array [.null, .float seven]),
      ("n".toList, .integer 7), ("x".toList, .float seven)]) none
    let equal (l r : Expr) := (Expr.binary .equal l r).eval b
    let contains (e : Expr) := (Expr.call (.ref "l".toList) "contains".toList [e]).eval b
    equal (.ref "n".toList) (.ref "n".toList) = .ok (.boolean true) ∧
      equal (.ref "n".toList) (.ref "x".toList) = .ok (.boolean true) ∧
      ∃ t, contains (.ref "n".toList) = .ok (.boolean t) ∧
        contains (.ref "x".toList) = .ok (.boolean t) := by
  intro seven b equal contains
  have hn : (Expr.ref "n".toList).eval b = .ok (.integer 7) := rfl
  have hx : (Expr.ref "x".toList).eval b = .ok (.float seven) := rfl
  have hl : (Expr.ref "l".toList).eval b = .ok (.array [.null, .float seven]) := rfl
  obtain ⟨hself, -, -, -, hcontains, hexact⟩ := eval_equality hn hn hx hl
  have hreading : Number.Reading.ofFloat seven = .finite false 7881299347898368 (-50) := by
    decide +kernel
  have hseven : Number.extended? seven = some (.finite (7 : Int64).toInt) := by
    rw [Number.extended?, hreading]
    norm_num [Number.Reading.extended?, Number.signed]
    rfl
  have hequal := (hexact 7 seven rfl rfl (by decide)).2 hseven
  have hkept : ∀ v ∈ [Value.null, .float seven],
      ¬Conflated v (.integer 7) (.float seven) ∧ ¬Conflated v (.float seven) (.integer 7) := by
    intro v hv
    simp only [List.mem_cons, List.not_mem_nil, or_false] at hv
    have hnumber : ∀ m, v ≠ .integer m := by rcases hv with rfl | rfl <;> simp
    exact ⟨not_conflated hnumber, not_conflated hnumber⟩
  exact ⟨hself (by simp [Value.floats]), hequal, hcontains hequal hkept⟩

/-- The floating-point number `2 ^ 53` equals two different whole numbers, and it is an element of a
list in which one of them is not. -/
theorem equality_not_transitive :
    let large := Float.ofBits 0x4340000000000000
    let b := Bindings.ofCall (.object [("l".toList, .array [.integer 9007199254740992]),
      ("m".toList, .integer 9007199254740992), ("n".toList, .integer 9007199254740993),
      ("x".toList, .float large)]) none
    let equal (l r : Expr) := (Expr.binary .equal l r).eval b
    let contains (e : Expr) := (Expr.call (.ref "l".toList) "contains".toList [e]).eval b
    large.isNaN = false ∧
      equal (.ref "m".toList) (.ref "x".toList) = .ok (.boolean true) ∧
      equal (.ref "x".toList) (.ref "n".toList) = .ok (.boolean true) ∧
      equal (.ref "m".toList) (.ref "n".toList) = .ok (.boolean false) ∧
      contains (.ref "x".toList) = .ok (.boolean true) ∧
      contains (.ref "n".toList) = .ok (.boolean false) :=
  ⟨rfl, rfl, rfl, rfl, rfl, rfl⟩

end Expr

end DynamicSql
