import DynamicSql.Proofs.Expr.Path
import DynamicSql.Proofs.Number.Vanishing
import DynamicSql.Proofs.Number.Whole

/-!
# The truth of numbers

A number counts as true if it is not zero. For a comparison with zero that is the number itself, but
the truth of a floating-point number is that of its decimal, in which small numbers become zero
(`Vanishing`). So conditions and the operators on truth values agree with the comparison, but for
these numbers, which count as false though they are not zero (`eval_truth`,
`truth_not_comparison`).
-/

namespace DynamicSql

namespace Value

variable {x : Float} {q : ℚ}

/-- The rational number that a whole number or a finite floating-point number stands for. -/
def rational? : Value → Option ℚ
  | integer n => some n.toInt
  | float x =>
    match Number.extended? x with
    | some (.finite q) => some q
    | _ => none
  | _ => none

/-- A floating-point number that is not zero, but becomes zero as a decimal. -/
inductive Vanishing : Value → Prop
  | mk {x : Float} {q : ℚ} (hx : Number.extended? x = some (.finite q)) (hne : q ≠ 0)
      (hsmall : |q| < Number.Decimal.least) : Vanishing (.float x)

lemma rational?_float : (float x).rational? = some q ↔ Number.extended? x = some (.finite q) := by
  rw [rational?]
  split <;> simp_all

lemma not_vanishing_integer (n : Int64) : ¬(integer n).Vanishing := nofun

lemma vanishing_float (hx : Number.extended? x = some (.finite q)) :
    (float x).Vanishing ↔ q ≠ 0 ∧ |q| < Number.Decimal.least := by
  constructor
  · rintro ⟨hx', hne, hsmall⟩
    rw [hx] at hx'
    cases hx'
    exact ⟨hne, hsmall⟩
  · rintro ⟨hne, hsmall⟩
    exact ⟨hx, hne, hsmall⟩

/-- **The truth of a floating-point number.** -/
lemma floatTruth_iff (hx : Number.extended? x = some (.finite q)) :
    floatTruth x ↔ Number.Decimal.least ≤ |q| := by
  obtain ⟨negative, m, e, hreading, rfl⟩ := Number.exists_reading hx
  have hnonneg : (0 : ℚ) ≤ m * 2 ^ e := mul_nonneg m.cast_nonneg (zpow_nonneg two_pos.le e)
  rw [Number.abs_signed, abs_of_nonneg hnonneg, floatTruth]
  split
  next d hd => rw [bne_iff_ne, Number.Decimal.ofFloat?_ne_zero hreading hd]
  next hd =>
    have hone := Number.Decimal.one_le_of_ofFloat?_none hreading hd
    refine iff_of_true ?_ (Number.Decimal.least_le_one.trans hone)
    have hne : Number.signed negative (m * 2 ^ e) ≠ 0 := by
      rw [Ne, Number.signed_eq_zero]
      linarith
    rw [bne, Bool.not_eq_true', ← Bool.not_eq_true,
      Number.beq_iff_of_finite hx Number.extended?_zero]
    exact hne

/-- **The truth of a number.** -/
lemma truthy_iff {v : Value} (hv : v.rational? = some q) : v.truthy ↔ q ≠ 0 ∧ ¬v.Vanishing := by
  cases v with
  | integer n =>
    cases hv
    have hzero : n ≠ 0 ↔ (n.toInt : ℚ) ≠ 0 := by
      rw [Int.cast_ne_zero, Ne, ← Int64.toInt_inj]
      rfl
    simp [truthy, not_vanishing_integer, hzero]
  | float x =>
    rw [rational?_float] at hv
    rw [truthy, floatTruth_iff hv, vanishing_float hv]
    have hleast : |q| < Number.Decimal.least ∨ q ≠ 0 := by
      rcases eq_or_ne q 0 with rfl | hq
      · left
        norm_num [Number.Decimal.least]
      · exact .inr hq
    have hlt := not_lt (a := |q|) (b := Number.Decimal.least)
    tauto
  | _ => cases hv

end Value

namespace Expr

variable {bindings : Bindings}

/-- **A comparison with zero asks the number itself.** -/
lemma equal_zero_iff {v : Value} {q : ℚ} (hv : v.rational? = some q) :
    Eval.equal v (.integer 0) ↔ q = 0 := by
  cases v with
  | integer n =>
    cases hv
    change (n == 0) = true ↔ _
    rw [beq_iff_eq, Int.cast_eq_zero, ← Int64.toInt_inj]
    rfl
  | float x =>
    exact Number.beq_iff_of_finite (Value.rational?_float.1 hv) Number.extended?_ofInt_zero
  | _ => cases hv

/-- **Numbers count as true if they are not zero, but for those that vanish.** The comparison of a
whole number or a finite floating-point number with zero is exact. Its truth, in conditions and for
the operators on truth values, is the same, unless the number is not zero but below the border at
which its decimal becomes zero; then it counts as false. -/
theorem eval_truth {e right : Expr} {text : Text} {v w : Value} {q : ℚ}
    (he : e.eval bindings = .ok v) (hv : v.rational? = some q)
    (hright : right.eval bindings = .ok w) (htext : Expr.parse text = .ok e) :
    (Expr.binary .notEqual e (.integer 0)).eval bindings = .ok (.boolean (decide (q ≠ 0))) ∧
    ∃ t : Bool, (t ↔ q ≠ 0 ∧ ¬v.Vanishing) ∧
      v.truthy = t ∧ bindings.evalTruth text = .ok t ∧
      (Expr.unary .not e).eval bindings = .ok (.boolean !t) ∧
      (Expr.binary .and e right).eval bindings = .ok (.boolean (t && w.truthy)) ∧
      (Expr.binary .or e right).eval bindings = .ok (.boolean (t || w.truthy)) := by
  have hcomparison : (!Eval.equal v (.integer 0)) = decide (q ≠ 0) := by
    rw [Bool.eq_iff_iff, decide_eq_true_iff, Bool.not_eq_true', ← Bool.not_eq_true,
      equal_zero_iff hv]
  refine ⟨?_, v.truthy, Value.truthy_iff hv, rfl, ?_, ?_, ?_, ?_⟩
  · simp only [Expr.eval, he, Except.bind, Eval.binary, hcomparison]
  · simp only [Bindings.evalTruth, Bindings.eval, htext, he, Except.map]
  · simp only [Expr.eval, he, Except.bind, Eval.unary]
  · simp only [Expr.eval, he, hright, Except.bind]
    cases v.truthy <;> rfl
  · simp only [Expr.eval, he, hright, Except.bind]
    cases v.truthy <;> rfl

/-- Half counts as true, as it is not zero. -/
theorem eval_truth_half :
    let b := Bindings.ofCall (.object [("x".toList, .float (Float.ofBits 0x3FE0000000000000))]) none
    (Expr.binary .notEqual (.ref "x".toList) (.integer 0)).eval b = .ok (.boolean true) ∧
      b.evalTruth "x".toList = .ok true ∧
      (Expr.binary .or (.ref "x".toList) .null).eval b = .ok (.boolean true) := by
  intro b
  have he : (Expr.ref "x".toList).eval b = .ok (.float (Float.ofBits 0x3FE0000000000000)) := rfl
  have hreading : Number.Reading.ofFloat (Float.ofBits 0x3FE0000000000000) =
      .finite false 4503599627370496 (-53) := by decide +kernel
  have hhalf : Number.extended? (Float.ofBits 0x3FE0000000000000) = some (.finite (1 / 2)) := by
    rw [Number.extended?, hreading]
    norm_num [Number.Reading.extended?, Number.signed]
  have hnull : Expr.null.eval b = .ok .null := rfl
  have hparse : Expr.parse "x".toList = .ok (.ref "x".toList) := Path.parse_name (by decide)
  obtain ⟨hcomparison, t, ht, -, hcondition, -, -, hor⟩ :=
    eval_truth he (Value.rational?_float.2 hhalf) hnull hparse
  have htrue : t = true := by
    rw [ht, Value.vanishing_float hhalf]
    norm_num [Number.Decimal.least]
  subst htrue
  rw [decide_eq_true (by norm_num)] at hcomparison
  exact ⟨hcomparison, hcondition, hor⟩

/-- The floating-point number nearest to `10 ^ -30` is not zero, but counts as false. -/
theorem truth_not_comparison :
    let tiny := Float.ofBits 0x39B4484BFEEBC2A0
    let b := Bindings.ofCall (.object [("x".toList, .float tiny)]) none
    tiny.isFinite = true ∧
      (Expr.binary .notEqual (.ref "x".toList) (.integer 0)).eval b = .ok (.boolean true) ∧
      (Expr.unary .not (.ref "x".toList)).eval b = .ok (.boolean true) ∧
      (Value.float tiny).truthy = false := by
  intro tiny b
  have hfalse : Value.floatTruth tiny = false := by decide +kernel
  have hdifferent : Eval.equal (.float tiny) (.integer 0) = false := by decide +kernel
  have hcomparison : (Expr.binary .notEqual (.ref "x".toList) (.integer 0)).eval b =
      .ok (.boolean !Eval.equal (.float tiny) (.integer 0)) := rfl
  have hnot : (Expr.unary .not (.ref "x".toList)).eval b =
      .ok (.boolean !Value.floatTruth tiny) := rfl
  have hfinite : tiny.isFinite = true := by decide +kernel
  rw [hcomparison, hnot, hfalse, hdifferent]
  exact ⟨hfinite, rfl, rfl, hfalse⟩

end Expr

end DynamicSql
