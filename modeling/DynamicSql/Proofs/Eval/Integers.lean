import DynamicSql.Eval
import Mathlib.Tactic.Lemma

/-!
# Arithmetic on whole numbers

`Exact` says which whole number an operation has for its result, as in arithmetic without bounds.
An operation on two numbers of 64 bits gives exactly that number if it fits 64 bits, and an error
if it does not; where no whole number is the result, it is a quotient and becomes a float
(`eval_integers`). Only the remainder of the least number by minus one, which is zero, is an error
as well, since the quotient does not fit (`remainder_of_least`).
-/

namespace DynamicSql

namespace Eval

/-- The operators of arithmetic. -/
def arithmeticOperators : List BinaryOperator := [.add, .subtract, .multiply, .divide, .modulo]

/-- The whole number that an operation on two whole numbers gives. A quotient has to be exact; a
remainder is zero or has the sign of what is divided. -/
inductive Exact (a b : Int) : BinaryOperator → Int → Prop
  | add : Exact a b .add (a + b)
  | subtract : Exact a b .subtract (a - b)
  | multiply : Exact a b .multiply (a * b)
  | divide {q : Int} (hb : b ≠ 0) (hexact : q * b = a) : Exact a b .divide q
  | modulo {r : Int} (hdvd : b ∣ a - r) (hsmall : r.natAbs < b.natAbs)
      (hsign : r = 0 ∨ r.sign = a.sign) : Exact a b .modulo r

/-- Whether a whole number fits 64 bits. -/
def Fits (n : Int) : Prop := Int64.minValue.toInt ≤ n ∧ n ≤ Int64.maxValue.toInt

instance (n : Int) : Decidable (Fits n) := inferInstanceAs (Decidable (_ ∧ _))

/-- Whether an operation divides by zero. -/
def DividesByZero (op : BinaryOperator) (b : Int64) : Prop :=
  (op = .divide ∨ op = .modulo) ∧ b = 0

/-- Whether an operation asks for the remainder of the least number by minus one. -/
def OfLeast (op : BinaryOperator) (a b : Int64) : Prop :=
  op = .modulo ∧ a = Int64.minValue ∧ b = -1

variable {op : BinaryOperator} {a b : Int64} {n : Int}

/-! ## Numbers of 64 bits -/

lemma fits_toInt (a : Int64) : Fits a.toInt := by
  have hleast := a.le_toInt
  have hgreatest := a.toInt_lt
  rw [Fits, Int64.toInt_minValue, Int64.toInt_maxValue]
  omega

lemma toInt_ofInt_of_fits (h : Fits n) : (Int64.ofInt n).toInt = n := by
  rw [Fits, Int64.toInt_minValue, Int64.toInt_maxValue] at h
  exact Int64.toInt_ofInt_of_le h.1 (by omega)

lemma fitted?_of_fits (h : Fits n) : fitted? n = some (.integer (Int64.ofInt n)) :=
  if_pos h

lemma fitted?_of_not_fits (h : ¬Fits n) : fitted? n = none :=
  if_neg h

lemma toInt_ne_zero (h : b ≠ 0) : b.toInt ≠ 0 :=
  fun hzero => h (Int64.toInt_inj.1 hzero)

/-! ## Quotients and remainders -/

/-- The remainder is the only number of its kind. -/
lemma Exact.eq_tmod {a b r : Int} (h : Exact a b .modulo r) : r = a.tmod b := by
  obtain ⟨⟩ | ⟨⟩ | ⟨⟩ | ⟨⟩ | ⟨⟨q, hq⟩, hsmall, hsign⟩ := h
  have hb : b ≠ 0 := by
    rintro rfl
    exact absurd hsmall (Nat.not_lt_zero _)
  have hsum : r + b * q = a := by omega
  rcases Int.le_total 0 a with ha | ha
  · have hr : 0 ≤ r := by
      rcases hsign with rfl | hsign
      · exact Int.le_refl 0
      · rw [← Int.sign_nonneg_iff, hsign]
        exact Int.sign_nonneg_iff.2 ha
    exact ((Int.tdiv_tmod_unique ha hb).2 ⟨hsum, hr, by omega⟩).2.symm
  · have hr : r ≤ 0 := by
      rcases hsign with rfl | hsign
      · exact Int.le_refl 0
      · rw [← Int.sign_nonpos_iff, hsign]
        exact Int.sign_nonpos_iff.2 ha
    exact ((Int.tdiv_tmod_unique' ha hb).2 ⟨hsum, by omega, hr⟩).2.symm

/-- The remainder is one. -/
lemma exact_tmod {a b : Int} (hb : b ≠ 0) : Exact a b .modulo (a.tmod b) := by
  refine .modulo ⟨a.tdiv b, ?_⟩ ?_ ?_
  · have := Int.tmod_add_mul_tdiv a b
    omega
  · rw [Int.natAbs_tmod]
    exact Nat.mod_lt _ (Int.natAbs_pos.2 hb)
  · rw [Int.sign_tmod]
    split
    · next hdvd => exact .inl (Int.tmod_eq_zero_of_dvd hdvd)
    · exact .inr rfl

/-- A quotient fits, unless the least number is divided by minus one. -/
lemma fits_tdiv (hb : b ≠ 0) (h : ¬(a = Int64.minValue ∧ b = -1)) :
    Fits (a.toInt.tdiv b.toInt) := by
  have ha := fits_toInt a
  rw [Fits, Int64.toInt_minValue, Int64.toInt_maxValue] at ha ⊢
  by_cases hone : b.toInt.natAbs = 1
  · rcases Int.natAbs_eq_iff.1 hone with hone | hone
    · rw [hone, Int.natCast_one, Int.tdiv_one]
      exact ha
    · -- the opposite of the least number would not fit
      have hleast : a.toInt ≠ -2 ^ 63 := fun hleast =>
        h ⟨Int64.toInt_inj.1 hleast, Int64.toInt_inj.1 hone⟩
      rw [hone, Int.natCast_one, Int.tdiv_neg, Int.tdiv_one]
      omega
  · have hzero := toInt_ne_zero hb
    have hhalf : (a.toInt.tdiv b.toInt).natAbs ≤ a.toInt.natAbs / 2 := by
      rw [Int.natAbs_tdiv]
      exact Nat.div_le_div_left (by omega) (by decide)
    omega

/-- A remainder fits: it is smaller than what it is divided by. -/
lemma Exact.fits_modulo (h : Exact a.toInt b.toInt .modulo n) : Fits n := by
  have hb := fits_toInt b
  obtain ⟨⟩ | ⟨⟩ | ⟨⟩ | ⟨⟩ | ⟨-, hsmall, -⟩ := h
  rw [Fits, Int64.toInt_minValue, Int64.toInt_maxValue] at hb ⊢
  omega

/-! ## Results -/

/-- Operations do not divide by zero if they give a whole number. -/
lemma Exact.not_dividesByZero (h : Exact a.toInt b.toInt op n) : ¬DividesByZero op b := by
  rintro ⟨hop | hop, rfl⟩
  · subst hop
    obtain ⟨⟩ | ⟨⟩ | ⟨⟩ | ⟨hb, -⟩ := h
    exact hb rfl
  · subst hop
    obtain ⟨⟩ | ⟨⟩ | ⟨⟩ | ⟨⟩ | ⟨-, hsmall, -⟩ := h
    exact absurd hsmall (Nat.not_lt_zero _)

/-- What an operation gives is computed, and looked at for whether it fits. -/
lemma wholeResult?_of_exact (h : Exact a.toInt b.toInt op n) (hleast : ¬OfLeast op a b) :
    wholeResult? op a.toInt b.toInt = fitted? n := by
  cases h with
  | add | subtract | multiply => rfl
  | divide hb hexact => rw [wholeResult?, Int.tdiv_eq_of_eq_mul_left hb hexact.symm]
  | modulo hdvd hsmall hsign =>
      have hn := (Exact.modulo hdvd hsmall hsign).eq_tmod
      have hb : b ≠ 0 := by
        rintro rfl
        exact absurd hsmall (Nat.not_lt_zero _)
      have hquotient := fits_tdiv hb fun h => hleast ⟨rfl, h⟩
      rw [wholeResult?, fitted?_of_fits hquotient, ← hn]
      rfl

/-- A quotient that is not exact leaves a remainder. -/
lemma not_inexact_of_exact (h : Exact a.toInt b.toInt op n) :
    ¬(op = .divide ∧ a.toInt.tmod b.toInt ≠ 0) := by
  rintro ⟨rfl, hrest⟩
  obtain ⟨⟩ | ⟨⟩ | ⟨⟩ | ⟨hb, hexact⟩ := h
  exact hrest (Int.tmod_eq_zero_of_dvd ⟨n, by rw [← hexact, Int.mul_comm]⟩)

/-- Arithmetic on whole numbers, unless it divides by zero. -/
lemma integers_of_not_dividesByZero (h : ¬DividesByZero op b) :
    integers op a b =
      if op = .divide ∧ a.toInt.tmod b.toInt ≠ 0 then
        .ok (.float (Number.ofInt64 a / Number.ofInt64 b))
      else
        match wholeResult? op a.toInt b.toInt with
        | some v => .ok v
        | none => .error (.type (.overflow a op b)) :=
  if_neg h

/-- Arithmetic on whole numbers, where a whole number is the result. -/
lemma integers_of_exact (h : Exact a.toInt b.toInt op n) (hleast : ¬OfLeast op a b) :
    integers op a b =
      match fitted? n with
      | some v => .ok v
      | none => .error (.type (.overflow a op b)) := by
  rw [integers_of_not_dividesByZero h.not_dividesByZero, if_neg (not_inexact_of_exact h),
    wholeResult?_of_exact h hleast]

/-- Where no whole number is the result, the operation is a division that is not exact. -/
lemma inexact_of_forall_not_exact (hop : op ∈ arithmeticOperators) (hzero : ¬DividesByZero op b)
    (h : ∀ n, ¬Exact a.toInt b.toInt op n) : op = .divide ∧ ¬b.toInt ∣ a.toInt := by
  have hb : op = .divide ∨ op = .modulo → b.toInt ≠ 0 := fun hdivides =>
    toInt_ne_zero fun heq => hzero ⟨hdivides, heq⟩
  simp only [arithmeticOperators, List.mem_cons, List.not_mem_nil, or_false] at hop
  rcases hop with rfl | rfl | rfl | rfl | rfl
  · exact absurd .add (h _)
  · exact absurd .subtract (h _)
  · exact absurd .multiply (h _)
  · refine ⟨rfl, ?_⟩
    rintro ⟨q, hq⟩
    exact h q (.divide (hb (.inl rfl)) (by rw [hq, Int.mul_comm]))
  · exact absurd (exact_tmod (hb (.inr rfl))) (h _)

/-- Operators of arithmetic between whole numbers. -/
lemma binary_integers (hop : op ∈ arithmeticOperators) (a b : Int64) :
    binary op (.integer a) (.integer b) = integers op a b := by
  simp only [arithmeticOperators, List.mem_cons, List.not_mem_nil, or_false] at hop
  rcases hop with rfl | rfl | rfl | rfl | rfl <;> rfl

end Eval

namespace Expr

open Eval

/-- Operators of arithmetic between expressions that have whole numbers for their values. -/
lemma eval_arithmetic {bindings : Bindings} {left right : Expr} {op : BinaryOperator} {a b : Int64}
    (hop : op ∈ arithmeticOperators) (hleft : left.eval bindings = .ok (.integer a))
    (hright : right.eval bindings = .ok (.integer b)) :
    (Expr.binary op left right).eval bindings = integers op a b := by
  rw [← binary_integers hop]
  simp only [arithmeticOperators, List.mem_cons, List.not_mem_nil, or_false] at hop
  rcases hop with rfl | rfl | rfl | rfl | rfl <;>
    simp only [Expr.eval, hleft, hright, Except.bind]

/-- **Arithmetic on whole numbers is exact, or says that it is not.** Let two expressions have whole
numbers for their values, and an operator of arithmetic stand between them. Division by zero is an
error. Otherwise, if the operation has a whole number for its result, the value is that number if it
fits 64 bits, and there is an error if it does not; if it has none, it is a quotient that is not
exact, and the value is a float. One remainder is no value although it fits: that of the least
number by minus one. -/
theorem eval_integers {bindings : Bindings} {left right : Expr} {op : BinaryOperator} {a b : Int64}
    (hop : op ∈ arithmeticOperators) (hleft : left.eval bindings = .ok (.integer a))
    (hright : right.eval bindings = .ok (.integer b)) :
    let result := (Expr.binary op left right).eval bindings
    (DividesByZero op b → result = .error .divisionByZero) ∧
    (∀ n, Exact a.toInt b.toInt op n → ¬OfLeast op a b → Fits n →
      ∃ m : Int64, result = .ok (.integer m) ∧ m.toInt = n) ∧
    (∀ n, Exact a.toInt b.toInt op n → ¬Fits n → result = .error (.type (.overflow a op b))) ∧
    (¬DividesByZero op b → (∀ n, ¬Exact a.toInt b.toInt op n) →
      op = .divide ∧ ¬b.toInt ∣ a.toInt ∧
        result = .ok (.float (Number.ofInt64 a / Number.ofInt64 b))) ∧
    (OfLeast op a b →
      Exact a.toInt b.toInt op 0 ∧ result = .error (.type (.overflow a op b))) := by
  intro result
  have hresult : result = integers op a b := eval_arithmetic hop hleft hright
  rw [hresult]
  refine ⟨fun hzero => ?_, fun n hexact hleast hfits => ?_, fun n hexact hfits => ?_,
    fun hzero hnone => ?_, ?_⟩
  · exact if_pos hzero
  · rw [integers_of_exact hexact hleast, fitted?_of_fits hfits]
    exact ⟨_, rfl, toInt_ofInt_of_fits hfits⟩
  · have hleast : ¬OfLeast op a b := by
      rintro ⟨rfl, -⟩
      exact hfits hexact.fits_modulo
    rw [integers_of_exact hexact hleast, fitted?_of_not_fits hfits]
  · obtain ⟨rfl, hdvd⟩ := inexact_of_forall_not_exact hop hzero hnone
    have hrest : a.toInt.tmod b.toInt ≠ 0 := fun hrest => hdvd (Int.dvd_of_tmod_eq_zero hrest)
    refine ⟨rfl, hdvd, ?_⟩
    rw [integers_of_not_dividesByZero hzero, if_pos ⟨rfl, hrest⟩]
  · rintro ⟨rfl, rfl, rfl⟩
    exact ⟨exact_tmod (by decide), rfl⟩

/-- Minus seven leaves minus one when it is divided by two, and no whole number times two is minus
seven. -/
theorem eval_integers_negative :
    let b := Bindings.ofCall (.object [("n".toList, .integer (-7))]) none
    let result (op : BinaryOperator) := (Expr.binary op (.ref "n".toList) (.integer 2)).eval b
    (∃ m : Int64, result .modulo = .ok (.integer m) ∧ m.toInt = -1) ∧
      result .divide = .ok (.float (Number.ofInt64 (-7) / Number.ofInt64 2)) := by
  intro b result
  have hleft : (Expr.ref "n".toList).eval b = .ok (.integer (-7)) := rfl
  have hright : (Expr.integer 2).eval b = .ok (.integer 2) := rfl
  have hmod : BinaryOperator.modulo ∈ arithmeticOperators := by decide
  have hdiv : BinaryOperator.divide ∈ arithmeticOperators := by decide
  obtain ⟨-, hmodulo, -⟩ := eval_integers hmod hleft hright
  obtain ⟨-, -, -, hdivide, -⟩ := eval_integers hdiv hleft hright
  have hinexact : ∀ n, ¬Exact (-7) 2 .divide n := by
    rintro n (_ | _ | _ | ⟨-, hexact⟩)
    omega
  refine ⟨hmodulo (-1) (.modulo ⟨-3, rfl⟩ (by decide) (.inr rfl)) nofun (by decide), ?_⟩
  exact (hdivide (by rintro ⟨-, ⟨⟩⟩) hinexact).2.2

/-- The least number divided by minus one leaves zero, but that is said not to fit. -/
theorem remainder_of_least :
    let b := Bindings.ofCall (.object [("n".toList, .integer Int64.minValue)]) none
    let remainder : Expr := .binary .modulo (.ref "n".toList) (.unary .negate (.integer 1))
    Exact Int64.minValue.toInt (-1) .modulo 0 ∧ Fits 0 ∧
      remainder.eval b = .error (.type (.overflow Int64.minValue .modulo (-1))) :=
  ⟨.modulo ⟨2 ^ 63, by decide⟩ (by decide) (.inl rfl), by decide, rfl⟩

end Expr

end DynamicSql
