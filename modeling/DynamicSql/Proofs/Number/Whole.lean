import DynamicSql.Proofs.Number.Reading

/-!
# Whole numbers as floating-point numbers

A whole number becomes the floating-point number nearest to it. The model rounds its mantissa to 53
binary digits, which changes nothing if the number has no more than these (`round_exact`). So whole
numbers of at most `2 ^ 53` in magnitude are kept exactly (`extended?_ofInt`).
-/

namespace DynamicSql.Number

open Float.Model UnpackedFloat

/-! ## Rounding without a rest -/

lemma log2_mul_two_pow {c : Nat} (hc : c ≠ 0) (j : Nat) : (c * 2 ^ j).log2 = c.log2 + j := by
  obtain ⟨hle, hlt⟩ := (Nat.log2_eq_iff hc).1 rfl
  rw [Nat.log2_eq_iff (by positivity), Nat.pow_add, Nat.add_right_comm, Nat.pow_add _ _ j]
  exact ⟨Nat.mul_le_mul_right _ hle, Nat.mul_lt_mul_of_pos_right hlt (by positivity)⟩

lemma targetExponent_eq (m : Nat) (e : Int) :
    Format.binary64.targetExponent (totalExponent m e) = max (m.log2 + e - 52) (-1074) := by
  simp only [Format.targetExponent, totalExponent, Format.mantissaBits, Format.minExponent]
  norm_num
  omega

/-- Zeros that are shifted out leave no rest. -/
lemma shiftRight_mul_two_pow (c j : Nat) :
    (ExtendedMantissa.mk (c * 2 ^ j) false false) >>> j = ⟨c, false, false⟩ := by
  induction j generalizing c with
  | zero => simp [HShiftRight.hShiftRight, Nat.repeat]
  | succ j ih =>
    change ((ExtendedMantissa.mk (c * 2 ^ (j + 1)) false false) >>> j).shiftRightOne = _
    rw [Nat.pow_succ', ← Nat.mul_assoc, ih]
    simp [ExtendedMantissa.shiftRightOne]

lemma shiftToTargetExponent_eq {c j : Nat} {e : Int}
    (h : Format.binary64.targetExponent (totalExponent (c * 2 ^ j) e) = e + j) :
    shiftToTargetExponent Format.binary64 (c * 2 ^ j) e .exact = (⟨c, false, false⟩, e + j) := by
  have hj : (e + (j : Int) - e).toNat = j := by omega
  rw [shiftToTargetExponent]
  simp only [h, shiftToExponent, hj, ExtendedMantissa.ofMantissaAndAccuracy,
    shiftRight_mul_two_pow]

/-- **Rounding changes nothing** in a number of 53 binary digits. -/
lemma round_exact {c j : Nat} {e : Int} (s : Sign) (hc : 0 < c) (hlog : c.log2 = 52)
    (h : -1074 ≤ e + j) :
    roundWithAccuracy Format.binary64 s (c * 2 ^ j) e .exact = .finite s c (e + j) hc := by
  have hfirst : Format.binary64.targetExponent (totalExponent (c * 2 ^ j) e) = e + j := by
    rw [targetExponent_eq, log2_mul_two_pow hc.ne', hlog]
    omega
  have hthen : Format.binary64.targetExponent (totalExponent (c * 2 ^ 0) (e + j)) =
      e + j + (0 : Nat) := by
    rw [targetExponent_eq, Nat.pow_zero, Nat.mul_one, hlog]
    omega
  have hagain := shiftToTargetExponent_eq hthen
  have hrounded : (ExtendedMantissa.mk c false false).roundedMantissa = c := rfl
  rw [Nat.pow_zero, Nat.mul_one] at hagain
  rw [roundWithAccuracy, shiftToTargetExponent_eq hfirst]
  simp only [hrounded, hagain, Int.natCast_zero, Int.add_zero, hc.ne', ↓reduceDIte]

/-! ## Packing -/

lemma unpackSign_packComponents {spec : Format} (s : Sign) (e : BitVec spec.exponentBits)
    (m : BitVec spec.mantissaBitsWithoutImplicit) :
    unpackSign (packComponents spec s e m) = s.toBitVec := by
  ext i hi
  obtain rfl : i = 0 := by omega
  simp [unpackSign, packComponents, BitVec.getLsbD_append, BitVec.getElem_append]

lemma ofBitVec_toBitVec (s : Sign) : Sign.ofBitVec s.toBitVec = s := by
  cases s <;> rfl

/-- A number of 53 binary digits comes back from its bits. -/
lemma unpack_pack {s : Sign} {c : Nat} {e : Int} (hc : 0 < c) (hlog : c.log2 = 52)
    (hleast : -1074 ≤ e) (hgreatest : e ≤ 971) :
    (Float.Model.pack (.finite s c e hc)).unpack = .finite s c e hc := by
  obtain ⟨hle, hlt⟩ := (Nat.log2_eq_iff hc.ne').1 hlog
  obtain ⟨field, hfield⟩ : ∃ field : Nat, e + 1023 + 52 = field :=
    ⟨_, (Int.toNat_of_nonneg (by omega)).symm⟩
  have hpacked : UnpackedFloat.pack Format.binary64 (.finite s c e hc) =
      packComponents Format.binary64 s (BitVec.ofNat 11 field) (BitVec.ofNat 52 c) := by
    have hbias : e + (Format.binary64.exponentBias : Int) +
        Format.binary64.mantissaBitsWithoutImplicit = field := hfield
    have hdigits : c.log2 + 1 = Format.binary64.mantissaBits := by
      rw [hlog]
      rfl
    have hfits : ¬2 ^ Format.binary64.exponentBits ≤ field + 1 := by
      change ¬2 ^ 11 ≤ field + 1
      omega
    simp only [UnpackedFloat.pack, hbias, Int.toNat_natCast, hfits, hdigits, ↓reduceIte]
  have hexponent : (BitVec.ofNat 11 field).toNat = field := by
    rw [BitVec.toNat_ofNat, Nat.mod_eq_of_lt (by omega)]
  have hmantissa : (1#1 ++ BitVec.ofNat 52 c).toNat = c := by
    rw [toNat_append_implicit, BitVec.toNat_ofNat]
    change 2 ^ 52 + c % 2 ^ 52 = c
    omega
  have hones : BitVec.ofNat 11 field ≠ -1#11 := by
    rw [Ne, ← BitVec.toNat_inj, hexponent]
    change field ≠ 2047
    omega
  have hzeros : BitVec.ofNat 11 field ≠ 0#11 := by
    rw [Ne, ← BitVec.toNat_inj, hexponent]
    change field ≠ 0
    omega
  have hback : (field : Int) - ((Format.binary64.exponentBias : Int) +
      Format.binary64.mantissaBitsWithoutImplicit) = e := by
    change (field : Int) - (1023 + 52) = e
    omega
  change UnpackedFloat.unpack Format.binary64
    (UnpackedFloat.pack Format.binary64 (.finite s c e hc)) = _
  rw [hpacked, UnpackedFloat.unpack]
  simp only [unpackExponent_packComponents, unpackMantissa_packComponents,
    unpackSign_packComponents, hones, hzeros, ↓reduceIte, hexponent, hmantissa,
    ofBitVec_toBitVec, hback]

/-! ## Conversion -/

section Conversion

variable {n : Nat}

/-- The mantissa of a whole number, filled up to 53 binary digits. -/
lemma log2_filled (hpos : 0 < n) (h : n < 2 ^ 53) :
    n.log2 ≤ 52 ∧ (n * 2 ^ (52 - n.log2)).log2 = 52 := by
  have hlog : n.log2 ≤ 52 := Nat.le_of_lt_succ ((Nat.log2_lt hpos.ne').2 h)
  refine ⟨hlog, ?_⟩
  rw [log2_mul_two_pow hpos.ne']
  omega

lemma unpacked_ofNat (hpos : 0 < n) (h : n < 2 ^ 53) :
    UnpackedFloat.ofNat Format.binary64 n =
      .finite .positive (n * 2 ^ (52 - n.log2)) (n.log2 - 52) (by positivity) := by
  obtain ⟨hlog, hfilled⟩ := log2_filled hpos h
  have hc : 0 < n * 2 ^ (52 - n.log2) := by positivity
  have hsign : compare (n : Int) 0 = .gt := Int.compare_eq_gt.2 (by omega)
  have htarget : Format.binary64.targetExponent (totalExponent n 0) = n.log2 - 52 := by
    rw [targetExponent_eq]
    omega
  have hshift : (0 - ((n.log2 : Int) - 52)).toNat = 52 - n.log2 := by omega
  have hexponent : 0 - ((52 - n.log2 : Nat) : Int) = n.log2 - 52 + (0 : Nat) := by omega
  have hexact := round_exact (j := 0) (e := n.log2 - 52) .positive hc hfilled (by omega)
  rw [Nat.pow_zero, Nat.mul_one] at hexact
  simp only [UnpackedFloat.ofNat, UnpackedFloat.ofInt, UnpackedFloat.normalize, hsign,
    Int.toNat_natCast, UnpackedFloat.round, htarget, decreaseExponent, hshift, Nat.shiftLeft_eq,
    hexponent]
  simpa using hexact

lemma unpack_toFloat (hpos : 0 < n) (h : n < 2 ^ 53) :
    n.toUInt64.toFloat.toModel.unpack =
      .finite .positive (n * 2 ^ (52 - n.log2)) (n.log2 - 52) (by positivity) := by
  obtain ⟨hlog, hfilled⟩ := log2_filled hpos h
  have hn : n.toUInt64.toNat = n := Nat.mod_eq_of_lt (by omega)
  change (Float.Model.pack (UnpackedFloat.ofNat Format.binary64 n.toUInt64.toNat)).unpack = _
  rw [hn, unpacked_ofNat hpos h, unpack_pack _ hfilled (by omega) (by omega)]

/-- A whole number is converted as a decimal without places, which multiplies it by one. -/
lemma ofNat_eq (h : n < 2 ^ 53) :
    Float.ofNat n = n.toUInt64.toFloat * Float.ofBits 0x3FF0000000000000 := by
  change Float.ofScientific n false 0 = _
  rw [Float.ofScientific, dif_pos ⟨h, by decide⟩]
  rfl

lemma unpack_one : (Float.ofBits 0x3FF0000000000000).toModel.unpack =
    .finite .positive (2 ^ 52) (-52) (by decide) :=
  rfl

lemma unpack_ofNat (hpos : 0 < n) (h : n < 2 ^ 53) :
    (Float.ofNat n).toModel.unpack =
      .finite .positive (n * 2 ^ (52 - n.log2)) (n.log2 - 52) (by positivity) := by
  obtain ⟨hlog, hfilled⟩ := log2_filled hpos h
  have hc : 0 < n * 2 ^ (52 - n.log2) := by positivity
  have hexact := round_exact (j := 52) (e := n.log2 - 52 + -52) .positive hc hfilled (by omega)
  have hexponent : (n.log2 : Int) - 52 + -52 + (52 : Nat) = n.log2 - 52 := by omega
  rw [ofNat_eq h]
  change (Float.Model.pack (UnpackedFloat.mul Format.binary64
    n.toUInt64.toFloat.toModel.unpack (Float.ofBits 0x3FF0000000000000).toModel.unpack)).unpack = _
  rw [unpack_toFloat hpos h, unpack_one, UnpackedFloat.mul]
  change (Float.Model.pack (roundWithAccuracy Format.binary64 .positive _ _ .exact)).unpack = _
  rw [hexact]
  simp only [hexponent]
  exact unpack_pack hc hfilled (by omega) (by omega)

/-- A positive whole number of at most `2 ^ 53` becomes a mantissa and an exponent that make up the
same number. -/
lemma exists_unpack_ofNat (hpos : 0 < n) (h : n ≤ 2 ^ 53) :
    ∃ (c : Nat) (e : Int) (hc : 0 < c),
      (Float.ofNat n).toModel.unpack = .finite .positive c e hc ∧
        c.log2 = 52 ∧ -52 ≤ e ∧ e ≤ 1 ∧ (c : ℚ) * 2 ^ e = n := by
  rcases Nat.lt_or_eq_of_le h with hlt | rfl
  · obtain ⟨hlog, hfilled⟩ := log2_filled hpos hlt
    refine ⟨_, _, _, unpack_ofNat hpos hlt, hfilled, by omega, by omega, ?_⟩
    have hexponent : (n.log2 : Int) - 52 = -((52 - n.log2 : Nat) : Int) := by omega
    rw [hexponent, zpow_neg, zpow_natCast, Nat.cast_mul, Nat.cast_pow, Nat.cast_two]
    exact mul_inv_cancel_right₀ (by positivity) _
  · exact ⟨2 ^ 52, 1, by decide, rfl, by decide, by decide, by decide, by norm_num⟩

lemma extended?_of_unpack {x : Float} {s : Sign} {c : Nat} {e : Int} {hc : 0 < c}
    (h : x.toModel.unpack = .finite s c e hc) :
    extended? x = some (.finite (signed (isMinus s) (c * 2 ^ e))) := by
  rw [extended?, Reading.ofFloat_eq, h]
  rfl

lemma extended?_ofInt_zero : extended? (Float.ofInt 0) = some (.finite 0) := by
  have hreading : Reading.ofFloat (Float.ofInt 0) = .finite false 0 (-1074) := rfl
  rw [extended?, hreading]
  simp [Reading.extended?]

/-- **Whole numbers of at most `2 ^ 53` are kept exactly.** -/
theorem extended?_ofInt {n : Int} (h : n.natAbs ≤ 2 ^ 53) :
    extended? (Float.ofInt n) = some (.finite n) := by
  rcases n with (_ | n) | n
  · simpa using extended?_ofInt_zero
  · obtain ⟨c, e, hc, hunpack, -, -, -, hvalue⟩ := exists_unpack_ofNat n.succ_pos h
    rw [Float.ofInt, extended?_of_unpack hunpack, hvalue]
    rfl
  · obtain ⟨c, e, hc, hunpack, hlog, hleast, hgreatest, hvalue⟩ := exists_unpack_ofNat n.succ_pos h
    have hneg : (Float.ofInt (Int.negSucc n)).toModel.unpack = .finite .negative c e hc := by
      change (Float.Model.pack (UnpackedFloat.neg (Float.ofNat n.succ).toModel.unpack)).unpack = _
      rw [hunpack]
      exact unpack_pack hc hlog (by omega) (by omega)
    rw [extended?_of_unpack hneg, hvalue, Int.cast_negSucc]
    rfl

end Conversion

end DynamicSql.Number
