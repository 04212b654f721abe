import DynamicSql.Number.Binary64
import Mathlib

/-!
# What floating-point numbers stand for

A floating-point number stands for a rational number or for an infinity, unless it is not a number
(`extended?`). `Reading.ofFloat` finds out which by its bits, while the operations on such numbers
are given by a model that unpacks them into signs, mantissas and exponents; both take a number apart
in the same way (`Reading.ofFloat_eq`). A rational number has one mantissa and one exponent at most
within the bounds of both (`Bounded.inj`), zero having two signs. So two floating-point numbers are
equal exactly if they stand for the same (`beq_iff`).
-/

namespace DynamicSql.Number

open Float.Model UnpackedFloat

/-! ## Rational numbers and infinities -/

/-- What a floating-point number stands for, unless it is not a number. -/
inductive Extended where
  /-- Positive or negative infinity. -/
  | infinite (negative : Bool)
  /-- A rational number. -/
  | finite (q : ℚ)
  deriving DecidableEq

/-- A number with a sign. -/
def signed (negative : Bool) (q : ℚ) : ℚ := if negative then -q else q

/-- What a reading stands for. -/
def Reading.extended? : Reading → Option Extended
  | .nan => none
  | .infinite negative => some (.infinite negative)
  | .finite negative m e => some (.finite (signed negative (m * 2 ^ e)))

/-- What a floating-point number stands for. -/
def extended? (x : Float) : Option Extended := (Reading.ofFloat x).extended?

@[simp] lemma signed_zero (negative : Bool) : signed negative 0 = 0 := by
  cases negative <;> simp [signed]

@[simp] lemma signed_eq_zero {negative : Bool} {q : ℚ} : signed negative q = 0 ↔ q = 0 := by
  cases negative <;> simp [signed]

@[simp] lemma abs_signed (negative : Bool) (q : ℚ) : |signed negative q| = |q| := by
  cases negative <;> simp [signed]

lemma signed_inj {a b : Bool} {p q : ℚ} (hp : 0 < p) (hq : 0 < q) :
    signed a p = signed b q ↔ a = b ∧ p = q := by
  have hpq : p ≠ -q := fun h => by linarith
  have hqp : -p ≠ q := fun h => by linarith
  cases a <;> cases b <;> simp [signed, hpq, hqp]

lemma scaled_pos {m : Nat} (e : Int) (hm : 0 < m) : (0 : ℚ) < m * 2 ^ e :=
  mul_pos (Nat.cast_pos.2 hm) (zpow_pos two_pos e)

lemma signed_scaled_ne_zero (negative : Bool) {m : Nat} (e : Int) (hm : 0 < m) :
    signed negative (m * 2 ^ e) ≠ 0 :=
  fun h => (scaled_pos e hm).ne' (signed_eq_zero.1 h)

/-! ## One mantissa and one exponent -/

/-- The mantissas and exponents that readings have: the mantissa is below a bound, and it has all
its binary digits unless the exponent is the least one. -/
structure Bounded (m : Nat) (e : Int) : Prop where
  /-- The mantissa is not too large. -/
  lt : m < 2 * implicitBit
  /-- The exponent is not too small. -/
  least : -1074 ≤ e
  /-- The mantissa is not too small, unless the exponent cannot be smaller. -/
  full : implicitBit ≤ m ∨ e = -1074

lemma Reading.bounded_of_finite {x : Float} {negative : Bool} {m : Nat} {e : Int}
    (h : ofFloat x = .finite negative m e) : Bounded m e := by
  have hfraction : x.toBits.toNat % implicitBit < implicitBit := Nat.mod_lt _ (by decide)
  rw [ofFloat] at h
  generalize x.toBits.toNat % implicitBit = fraction at h hfraction
  generalize x.toBits.toNat / implicitBit % Nat.pow 2 11 = field at h
  split at h
  · split at h <;> cases h
  · split at h
    · cases h
      exact ⟨by omega, by omega, .inr rfl⟩
    · cases h
      exact ⟨by omega, by omega, .inl (Nat.le_add_right _ _)⟩

lemma eq_of_scaled_eq {m n : Nat} {e f : Int} (hm : Bounded m e) (hn : Bounded n f) (hle : e ≤ f)
    (h : (m : ℚ) * 2 ^ e = n * 2 ^ f) : m = n ∧ e = f := by
  obtain ⟨k, rfl⟩ := Int.le.dest hle
  have hmn : m = n * 2 ^ k := by
    have hne : (2 : ℚ) ^ e ≠ 0 := zpow_ne_zero _ two_ne_zero
    rw [zpow_add₀ two_ne_zero, zpow_natCast, mul_comm (2 ^ e), ← mul_assoc] at h
    exact_mod_cast mul_right_cancel₀ hne h
  rcases Nat.eq_zero_or_pos k with rfl | hk
  · simpa using hmn
  · -- the larger exponent is not the least, so that the other mantissa would have a digit too many
    have hdouble : 2 ≤ 2 ^ k := Nat.le_self_pow hk.ne' 2
    have hfull : implicitBit ≤ n := hn.full.resolve_right (by have := hm.least; omega)
    have hproduct := Nat.mul_le_mul hfull hdouble
    have hlt := hm.lt
    omega

/-- **A number has one mantissa and one exponent.** -/
lemma Bounded.inj {m n : Nat} {e f : Int} (hm : Bounded m e) (hn : Bounded n f) :
    (m : ℚ) * 2 ^ e = n * 2 ^ f ↔ m = n ∧ e = f := by
  constructor
  · intro h
    rcases Int.le_total e f with hle | hle
    · exact eq_of_scaled_eq hm hn hle h
    · obtain ⟨rfl, rfl⟩ := eq_of_scaled_eq hn hm hle h.symm
      exact ⟨rfl, rfl⟩
  · rintro ⟨rfl, rfl⟩
    rfl

/-! ## Bits -/

lemma toNat_unpackMantissa (b : BitVec 64) :
    (@unpackMantissa Format.binary64 b).toNat = b.toNat % implicitBit := by
  simp [unpackMantissa, implicitBit]

lemma toNat_unpackExponent (b : BitVec 64) :
    (@unpackExponent Format.binary64 b).toNat =
      b.toNat / implicitBit % Nat.pow 2 11 := by
  simp [unpackExponent, Nat.shiftRight_eq_div_pow, implicitBit]

lemma toNat_unpackSign (b : BitVec 64) :
    (@unpackSign Format.binary64 b).toNat = b.toNat / Nat.pow 2 63 := by
  have := b.isLt
  simp [unpackSign, Nat.shiftRight_eq_div_pow]
  omega

lemma toNat_append_implicit (v : BitVec 52) : (1#1 ++ v).toNat = implicitBit + v.toNat := by
  rw [BitVec.toNat_append, ← Nat.shiftLeft_add_eq_or_of_lt v.isLt]
  rfl

/-- Whether a sign is minus. -/
def isMinus : Sign → Bool
  | .negative => true
  | .positive => false

lemma isMinus_inj {s t : Sign} : isMinus s = isMinus t ↔ s = t := by
  cases s <;> cases t <;> simp [isMinus]

lemma isMinus_ofBitVec (b : BitVec 1) : isMinus (Sign.ofBitVec b) = (b.toNat == 1) := by
  revert b
  decide

/-! ## Unpacked numbers -/

namespace Reading

/-- The reading of an unpacked number. -/
def ofUnpacked : UnpackedFloat → Reading
  | .notANumber => .nan
  | .infinity s => .infinite (isMinus s)
  | .zero s => .finite (isMinus s) 0 (-1074)
  | .finite s m e _ => .finite (isMinus s) m e

lemma ofUnpacked_unpack (b : BitVec 64) :
    ofUnpacked (UnpackedFloat.unpack Format.binary64 b) =
      let negative := b.toNat / Nat.pow 2 63 == 1
      let field := b.toNat / implicitBit % Nat.pow 2 11
      let fraction := b.toNat % implicitBit
      if field = 2047 then
        if fraction = 0 then .infinite negative else .nan
      else if field = 0 then .finite negative fraction (-1074)
      else .finite negative (implicitBit + fraction) ((field : Int) - 1075) := by
  have hones : @unpackExponent Format.binary64 b = -1#11 ↔
      b.toNat / implicitBit % Nat.pow 2 11 = 2047 := by
    rw [← BitVec.toNat_inj, toNat_unpackExponent]
    rfl
  have hzeros : @unpackExponent Format.binary64 b = 0#11 ↔
      b.toNat / implicitBit % Nat.pow 2 11 = 0 := by
    rw [← BitVec.toNat_inj, toNat_unpackExponent]
    rfl
  have hfraction : @unpackMantissa Format.binary64 b = 0#52 ↔
      b.toNat % implicitBit = 0 := by
    rw [← BitVec.toNat_inj, toNat_unpackMantissa]
    rfl
  have hsign : isMinus (Sign.ofBitVec (@unpackSign Format.binary64 b)) =
      (b.toNat / Nat.pow 2 63 == 1) := by
    rw [isMinus_ofBitVec, toNat_unpackSign]
  have hbias : (Format.binary64.exponentBias : Int) +
      Format.binary64.mantissaBitsWithoutImplicit = 1075 := rfl
  simp only [UnpackedFloat.unpack, hones, hzeros, hfraction, hbias, toNat_unpackExponent]
  split
  · split
    · simp only [ofUnpacked, hsign]
    · rfl
  · split
    · next hfield =>
      split
      · next h => simp only [ofUnpacked, hsign, h]
      · simp only [ofUnpacked, hsign, hfield, toNat_unpackMantissa]
        rfl
    · simp only [ofUnpacked, hsign, toNat_append_implicit, toNat_unpackMantissa]

/-- **Numbers are taken apart as the model unpacks them.** -/
theorem ofFloat_eq (x : Float) : ofFloat x = ofUnpacked x.toModel.unpack :=
  (ofUnpacked_unpack x.toBits.toBitVec).symm

end Reading

/-! ## Equality -/

lemma compare_infinity (s t : Sign) :
    UnpackedFloat.compare (.infinity s) (.infinity t) = some .eq ↔ s = t := by
  cases s <;> cases t <;> simp [UnpackedFloat.compare] <;> rfl

lemma compare_finite {s t : Sign} {m n : Nat} {e f : Int} (hm : 0 < m) (hn : 0 < n) :
    UnpackedFloat.compare (.finite s m e hm) (.finite t n f hn) = some .eq ↔
      s = t ∧ m = n ∧ e = f := by
  cases s <;> cases t <;> simp [UnpackedFloat.compare, Ordering.then_eq_eq, and_comm]

/-- Unpacked numbers compare equal if they stand for the same, as long as they are bounded. -/
lemma compare_eq_iff {u v : UnpackedFloat}
    (hu : ∀ a m e, Reading.ofUnpacked u = .finite a m e → Bounded m e)
    (hv : ∀ a m e, Reading.ofUnpacked v = .finite a m e → Bounded m e) :
    u.compare v = some .eq ↔
      (Reading.ofUnpacked u).extended? = (Reading.ofUnpacked v).extended? ∧
        (Reading.ofUnpacked u).extended? ≠ none := by
  rcases u with s | _ | s | ⟨s, m, e, hm⟩ <;> rcases v with t | _ | t | ⟨t, n, f, hn⟩
  case finite.finite =>
    have hvalues := (hu _ _ _ rfl).inj (hv _ _ _ rfl)
    simp [Reading.ofUnpacked, Reading.extended?, compare_finite, isMinus_inj, hvalues,
      signed_inj (scaled_pos e hm) (scaled_pos f hn)]
  case infinity.infinity =>
    simp [Reading.ofUnpacked, Reading.extended?, compare_infinity, isMinus_inj]
  case zero.finite =>
    have hne := (signed_scaled_ne_zero (isMinus t) f hn).symm
    cases t <;> simp [UnpackedFloat.compare, Reading.ofUnpacked, Reading.extended?, hne]
  case finite.zero =>
    have hne := signed_scaled_ne_zero (isMinus s) e hm
    cases s <;> simp [UnpackedFloat.compare, Reading.ofUnpacked, Reading.extended?, hne]
  -- what is left are the cases of two zeros, of different kinds, and of what is not a number
  all_goals
    try cases s
  all_goals
    try cases t
  all_goals
    simp [UnpackedFloat.compare, Reading.ofUnpacked, Reading.extended?]

/-- **Floating-point numbers are equal if they stand for the same.** -/
theorem beq_iff {x y : Float} : x == y ↔ extended? x = extended? y ∧ extended? x ≠ none := by
  have hx := Reading.ofFloat_eq x
  have hy := Reading.ofFloat_eq y
  have hcompare : x == y ↔ x.toModel.unpack.compare y.toModel.unpack = some .eq := by
    change (x.toModel.unpack.compare y.toModel.unpack == some .eq) = true ↔ _
    exact beq_iff_eq
  rw [hcompare, extended?, extended?, hx, hy, compare_eq_iff]
  · intro a m e h
    exact Reading.bounded_of_finite (hx.trans h)
  · intro a m e h
    exact Reading.bounded_of_finite (hy.trans h)

/-- Rational numbers are equal if their floating-point numbers are. -/
lemma beq_iff_of_finite {x y : Float} {p q : ℚ} (hx : extended? x = some (.finite p))
    (hy : extended? y = some (.finite q)) : x == y ↔ p = q := by
  simp [beq_iff, hx, hy]

lemma extended?_zero : extended? 0.0 = some (.finite 0) := by
  have hreading : Reading.ofFloat 0.0 = .finite false 0 (-1074) := rfl
  simp [extended?, hreading, Reading.extended?]

/-- The mantissa and exponent of a rational number. -/
lemma exists_reading {x : Float} {q : ℚ} (h : extended? x = some (.finite q)) :
    ∃ negative m e, Reading.ofFloat x = .finite negative m e ∧ q = signed negative (m * 2 ^ e) := by
  rw [extended?] at h
  cases hreading : Reading.ofFloat x with
  | finite negative m e =>
    rw [hreading] at h
    cases h
    exact ⟨negative, m, e, rfl, rfl⟩
  | _ =>
    rw [hreading] at h
    cases h

/-- A number that is not a number is one for which nothing stands. -/
lemma extended?_eq_none_iff {x : Float} : extended? x = none ↔ x.isNaN := by
  change _ ↔ x.toModel.unpack.isNaN = true
  rw [extended?, Reading.ofFloat_eq]
  cases x.toModel.unpack <;> simp [Reading.ofUnpacked, Reading.extended?, UnpackedFloat.isNaN]

/-- A number is finite if it stands for a rational number. -/
lemma exists_extended?_iff {x : Float} : (∃ q, extended? x = some (.finite q)) ↔ x.isFinite := by
  change _ ↔ x.toModel.unpack.isFinite = true
  rw [extended?, Reading.ofFloat_eq]
  cases x.toModel.unpack <;> simp [Reading.ofUnpacked, Reading.extended?, UnpackedFloat.isFinite]

end DynamicSql.Number
