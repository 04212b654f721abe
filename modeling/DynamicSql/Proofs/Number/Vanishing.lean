import DynamicSql.Number.Decimal
import DynamicSql.Proofs.Number.Reading

/-!
# Numbers that become zero as decimals

A decimal has at most 28 places, so a small floating-point number becomes zero. Where the border is
depends on how the places too many are dropped (`dropDigits`): one digit after the other, each time
rounding a half up, and a number of a single digit becomes zero whatever this digit is. So a number
that needs `n` places more keeps a digit if it is at least `17 / 18 * 10 ^ n`
(`dropDigits_ne_zero`), and the border is `least`, slightly below `10 ^ -28`.

The digits themselves are not exact, as the mantissa has no room for all the fives of a power of
two. What is lost is too little to matter (`le_absorbFives`): a floating-point number at the border
has few binary digits after the point, so it cannot be as near to the border as this
(`least_le_of_lost`). Numbers that are too large for a decimal are at least one
(`one_le_of_ofFloat?_none`), and for all others the border decides (`ofFloat?_ne_zero`).
-/

namespace DynamicSql.Number.Decimal

/-- The border between the numbers that become zero as decimals and those that do not. -/
def least : ℚ := 17 / (18 * 10 ^ 28)

lemma least_le_one : least ≤ 1 := by norm_num [least]

/-! ## Dropping digits -/

lemma ten_pow_mod (n : Nat) : 10 ^ (n + 1) % 18 = 10 := by
  induction n with
  | zero => rfl
  | succ n ih => rw [pow_succ, Nat.mul_mod, ih]

/-- **What is left of a number from which `n` digits are dropped.** -/
lemma dropDigits_ne_zero (n m : Nat) (e : Int) :
    (dropDigits n m e).1 ≠ 0 ↔ 17 * 10 ^ n ≤ 18 * m := by
  induction n generalizing m e with
  | zero =>
    rw [dropDigits]
    omega
  | succ n ih =>
    rw [dropDigits]
    split
    case isTrue hdigit =>
      have hlarge : 0 < 10 ^ n := Nat.pow_pos (by decide)
      rw [pow_succ]
      simp only [ne_eq, not_true_eq_false, false_iff]
      omega
    case isFalse hdigit =>
      rw [ih, divHalfUp]
      cases n with
      | zero => omega
      | succ n =>
        -- the remainder decides how the border is rounded
        have hmod := ten_pow_mod n
        rw [pow_succ 10 (n + 1)]
        generalize 10 ^ (n + 1) = p at hmod ⊢
        omega

lemma shorten_ne_zero (count m : Nat) : (shorten count m).1 ≠ 0 ↔ m ≠ 0 := by
  induction count generalizing m with
  | zero => rfl
  | succ count ih =>
    rw [shorten]
    split
    case isTrue hlarge =>
      have : 2 ^ 52 ≤ m := hlarge
      rw [ih, divHalfUp]
      omega
    case isFalse => rfl

lemma dropZerosAbove_ne_zero (lowest scale m : Nat) :
    (dropZerosAbove lowest scale m).1 ≠ 0 ↔ m ≠ 0 := by
  induction scale generalizing m with
  | zero => rfl
  | succ scale ih =>
    rw [dropZerosAbove]
    split
    case isTrue hzero =>
      rw [ih]
      omega
    case isFalse => rfl

/-! ## The mantissa and scale of a power of ten -/

lemma ten_zpow_pos (e : Int) : (0 : ℚ) < 10 ^ e := zpow_pos (by norm_num) e

lemma one_le_scaled_ten {m : Nat} (hm : m ≠ 0) (k : Nat) : (1 : ℚ) ≤ m * 10 ^ (k : Int) := by
  rw [zpow_natCast]
  exact_mod_cast Nat.mul_pos (Nat.pos_of_ne_zero hm) (Nat.pow_pos (by decide))

lemma least_le_scaled_ten (m k : Nat) :
    least ≤ m * 10 ^ (-(k : Int)) ↔ 17 * 10 ^ (k - maxScale) ≤ 18 * m := by
  have hscaled : least ≤ m * 10 ^ (-(k : Int)) ↔ 17 * 10 ^ k ≤ m * (18 * 10 ^ 28) := by
    rw [zpow_neg, zpow_natCast, ← div_eq_mul_inv, least,
      div_le_div_iff₀ (by norm_num) (by positivity)]
    exact_mod_cast Iff.rfl
  rw [hscaled]
  rcases Nat.le_total k maxScale with hk | hk
  · have hpow : 10 ^ k ≤ 10 ^ 28 := Nat.pow_le_pow_right (by decide) hk
    rw [Nat.sub_eq_zero_of_le hk]
    rcases Nat.eq_zero_or_pos m with rfl | hm
    · have : 0 < 10 ^ k := Nat.pow_pos (by decide)
      omega
    · omega
  · obtain ⟨n, rfl⟩ := Nat.exists_eq_add_of_le' hk
    rw [Nat.add_sub_cancel, maxScale, pow_add]
    omega

/-- **A number that has a decimal keeps a digit exactly from the border on.** -/
lemma settle?_ne_zero {m : Nat} {e : Int} {digits : Nat × Nat} (h : settle? m e = some digits) :
    digits.1 ≠ 0 ↔ least ≤ m * 10 ^ e := by
  rw [settle?] at h
  split at h
  case isTrue he =>
    obtain ⟨k, rfl⟩ := Int.eq_ofNat_of_zero_le he
    simp only [Int.toNat_natCast, Option.ite_none_right_eq_some, Option.some.injEq] at h
    obtain ⟨-, rfl⟩ := h
    rcases eq_or_ne m 0 with rfl | hm
    · simp [least]
    · have hpow : Nat.pow 10 k ≠ 0 := (Nat.pow_pos (by decide)).ne'
      simp only [ne_eq, Nat.mul_eq_zero, hm, hpow, or_self, not_false_iff, true_iff]
      exact least_le_one.trans (one_le_scaled_ten hm k)
  case isFalse he =>
    obtain ⟨k, rfl⟩ : ∃ k : Nat, e = -k := ⟨(-e).toNat, by omega⟩
    simp only [Option.some.injEq] at h
    subst h
    have hcount : (-(-(k : Int)) - maxScale).toNat = k - maxScale := by omega
    rw [dropZerosAbove_ne_zero, shorten_ne_zero, dropDigits_ne_zero, hcount, least_le_scaled_ten]

lemma one_le_of_settle?_none {m : Nat} {e : Int} (h : settle? m e = none) :
    (1 : ℚ) ≤ m * 10 ^ e := by
  rw [settle?] at h
  split at h
  case isTrue he =>
    obtain ⟨k, rfl⟩ := Int.eq_ofNat_of_zero_le he
    refine one_le_scaled_ten ?_ k
    rintro rfl
    simp [limit] at h
  case isFalse => cases h

/-! ## Working a power of five into the mantissa -/

/-- The part of a number that is kept at least when a mantissa is halved that has no room for a five
more. -/
def kept : ℚ := 1 - 5 / 2 ^ 96

lemma kept_pos : 0 < kept := by norm_num [kept]

lemma kept_le_one : kept ≤ 1 := by norm_num [kept]

lemma one_sub_le_kept_pow (count : Nat) : 1 - count * (5 / 2 ^ 96) ≤ kept ^ count := by
  have hbernoulli := one_add_mul_le_pow (by norm_num : (-2 : ℚ) ≤ -(5 / 2 ^ 96)) count
  rw [kept, sub_eq_add_neg 1 (5 / 2 ^ 96)]
  linarith

lemma scaled_half_bounds {m : Nat} (e : Int) (hm : m % 2 = 0 ∨ limit ≤ 5 * m) :
    5 * kept * (m * 10 ^ e) ≤ (m / 2 : Nat) * 10 ^ (e + 1) ∧
      ((m / 2 : Nat) : ℚ) * 10 ^ (e + 1) ≤ 5 * (m * 10 ^ e) := by
  have hten := ten_zpow_pos e
  have hsplit : (m : ℚ) = 2 * (m / 2 : Nat) + (m % 2 : Nat) := by
    exact_mod_cast (Nat.div_add_mod m 2).symm
  have hbit : ((m % 2 : Nat) : ℚ) ≤ m * (5 / 2 ^ 96) := by
    rcases hm with hm | hm
    · rw [hm, Nat.cast_zero]
      positivity
    · have hlarge : (2 ^ 96 : ℚ) ≤ 5 * m := by exact_mod_cast hm
      have hone : ((m % 2 : Nat) : ℚ) ≤ 1 := by
        exact_mod_cast Nat.le_of_lt_succ (Nat.mod_lt m two_pos)
      linarith
  have hnonneg : (0 : ℚ) ≤ (m % 2 : Nat) := Nat.cast_nonneg _
  have hlower : kept * m ≤ 2 * (m / 2 : Nat) := by
    rw [kept]
    linarith
  have hupper : 2 * ((m / 2 : Nat) : ℚ) ≤ m := by linarith
  rw [zpow_add₀ (by norm_num), zpow_one]
  constructor
  · calc 5 * kept * (m * 10 ^ e) = kept * m * (5 * 10 ^ e) := by ring
      _ ≤ 2 * (m / 2 : Nat) * (5 * 10 ^ e) := by gcongr
      _ = (m / 2 : Nat) * (10 ^ e * 10) := by ring
  · calc ((m / 2 : Nat) : ℚ) * (10 ^ e * 10) = 2 * (m / 2 : Nat) * (5 * 10 ^ e) := by ring
      _ ≤ m * (5 * 10 ^ e) := by gcongr
      _ = 5 * (m * 10 ^ e) := by ring

lemma absorbFives_succ (count m : Nat) (e : Int) :
    ∃ n f, absorbFives (count + 1) m e = absorbFives count n f ∧
      5 * kept * (m * 10 ^ e) ≤ n * 10 ^ f ∧ (n : ℚ) * 10 ^ f ≤ 5 * (m * 10 ^ e) := by
  rw [absorbFives]
  split
  case isTrue heven => exact ⟨_, _, rfl, scaled_half_bounds e (.inl heven)⟩
  case isFalse =>
    split
    case isTrue =>
      have hvalue : (0 : ℚ) ≤ 5 * (m * 10 ^ e) :=
        mul_nonneg (by norm_num) (mul_nonneg m.cast_nonneg (ten_zpow_pos e).le)
      have hfive : ((5 * m : Nat) : ℚ) * 10 ^ e = 5 * (m * 10 ^ e) := by
        push_cast
        ring
      refine ⟨_, _, rfl, ?_, hfive.le⟩
      rw [hfive, mul_right_comm]
      exact mul_le_of_le_one_right hvalue kept_le_one
    case isFalse hlarge =>
      exact ⟨_, _, rfl, scaled_half_bounds e (.inr (Nat.le_of_not_lt hlarge))⟩

/-- **What is lost when a power of five is worked into a mantissa.** -/
lemma absorbFives_bounds (count m : Nat) (e : Int) :
    (5 * kept) ^ count * (m * 10 ^ e) ≤
        (absorbFives count m e).1 * 10 ^ (absorbFives count m e).2 ∧
      ((absorbFives count m e).1 : ℚ) * 10 ^ (absorbFives count m e).2 ≤
        5 ^ count * (m * 10 ^ e) := by
  induction count generalizing m e with
  | zero => simp [absorbFives]
  | succ count ih =>
    obtain ⟨n, f, heq, hlower, hupper⟩ := absorbFives_succ count m e
    obtain ⟨ihlower, ihupper⟩ := ih n f
    have hkept := kept_pos
    rw [heq]
    constructor
    · calc (5 * kept) ^ (count + 1) * (m * 10 ^ e)
          = (5 * kept) ^ count * (5 * kept * (m * 10 ^ e)) := by ring
        _ ≤ (5 * kept) ^ count * (n * 10 ^ f) := by gcongr
        _ ≤ _ := ihlower
    · calc _ ≤ 5 ^ count * ((n : ℚ) * 10 ^ f) := ihupper
        _ ≤ 5 ^ count * (5 * (m * 10 ^ e)) := by gcongr
        _ = 5 ^ (count + 1) * (m * 10 ^ e) := by ring

/-- A mantissa that reaches the border does so with few digits after the point. -/
lemma digits_le_of_least_le {m count : Nat} (hm : m < 2 * implicitBit)
    (h : least ≤ m * 2 ^ (-(count : Int))) : count ≤ 146 := by
  rw [zpow_neg, zpow_natCast, ← div_eq_mul_inv, le_div_iff₀ (by positivity)] at h
  by_contra hcount
  have hpow : (2 : ℚ) ^ 147 ≤ 2 ^ count :=
    pow_le_pow_right₀ one_le_two (Nat.lt_of_not_le hcount)
  have hmantissa : (m : ℚ) < 2 ^ 53 := by exact_mod_cast hm
  have hlarge : (2 : ℚ) ^ 53 < least * 2 ^ 147 := by norm_num [least]
  have : least * 2 ^ 147 ≤ least * 2 ^ count :=
    mul_le_mul_of_nonneg_left hpow (by norm_num [least])
  linarith

/-- In units of `2 ^ -146` the border is no whole number, so a number that reaches it is above. -/
lemma units_of_least_le {units : Nat} (h : least ≤ units / 2 ^ 146) : 8424725963889347 ≤ units := by
  by_contra hless
  have hle : (units : ℚ) ≤ 8424725963889346 := by
    exact_mod_cast Nat.le_of_lt_succ (Nat.lt_of_not_le hless)
  have hbelow : (8424725963889346 : ℚ) < least * 2 ^ 146 := by norm_num [least]
  rw [le_div_iff₀ (by positivity)] at h
  linarith

/-- **What is lost does not carry a number below the border.** -/
lemma least_le_of_lost {m count : Nat} (hm : m < 2 * implicitBit)
    (h : least ≤ m * 2 ^ (-(count : Int))) : least ≤ kept ^ count * (m * 2 ^ (-(count : Int))) := by
  have hcount := digits_le_of_least_le hm h
  obtain ⟨units, hunits⟩ : ∃ units : Nat, (m * 2 ^ (-(count : Int)) : ℚ) = units / 2 ^ 146 := by
    obtain ⟨rest, hrest⟩ := Nat.exists_eq_add_of_le hcount
    refine ⟨m * 2 ^ rest, ?_⟩
    rw [zpow_neg, zpow_natCast, hrest, pow_add]
    push_cast
    field_simp
  rw [hunits] at h ⊢
  have hwhole : (8424725963889347 : ℚ) ≤ units := by exact_mod_cast units_of_least_le h
  have hkept : (1 - 146 * (5 / 2 ^ 96) : ℚ) ≤ kept ^ count := by
    have hcast : (count : ℚ) ≤ 146 := by exact_mod_cast hcount
    refine le_trans ?_ (one_sub_le_kept_pow count)
    linarith
  calc least ≤ (1 - 146 * (5 / 2 ^ 96)) * (8424725963889347 / 2 ^ 146) := by norm_num [least]
    _ ≤ kept ^ count * (units / 2 ^ 146) := by
      have := kept_pos
      gcongr

lemma five_pow_mul_ten_zpow (count m : Nat) :
    (5 : ℚ) ^ count * (m * 10 ^ (-(count : Int))) = m * 2 ^ (-(count : Int)) := by
  have hten : (10 : ℚ) ^ count = 2 ^ count * 5 ^ count := by
    rw [← mul_pow]
    norm_num
  rw [zpow_neg, zpow_neg, zpow_natCast, zpow_natCast, hten]
  field_simp

lemma least_le_absorbFives {m : Nat} (count : Nat) (hm : m < 2 * implicitBit) :
    least ≤ (absorbFives count m (-count)).1 * 10 ^ (absorbFives count m (-count)).2 ↔
      least ≤ m * 2 ^ (-(count : Int)) := by
  obtain ⟨hlower, hupper⟩ := absorbFives_bounds count m (-count)
  rw [five_pow_mul_ten_zpow] at hupper
  rw [mul_pow, mul_right_comm, five_pow_mul_ten_zpow, mul_comm] at hlower
  exact ⟨fun h => h.trans hupper, fun h => (least_le_of_lost hm h).trans hlower⟩

/-! ## Taking a power of five out of the mantissa -/

/-- Every step loses a factor of ten at most. -/
lemma le_releaseFives {count m n : Nat} {e f : Int} (h : releaseFives count m e = some (n, f)) :
    m * 10 ^ (e - count) ≤ (n : ℚ) * 10 ^ f := by
  induction count generalizing m e with
  | zero =>
    cases h
    simp
  | succ count ih =>
    have hten := ten_zpow_pos (e - (count + 1 : Nat))
    rw [releaseFives] at h
    split at h
    case isTrue =>
      have hexponent : e - 1 - (count : Int) = e - (count + 1 : Nat) := by omega
      refine le_trans ?_ (ih h)
      rw [hexponent]
      gcongr
      omega
    case isFalse hlarge =>
      split at h
      · cases h
      · have hfifth : m ≤ m / 5 * 10 := by
          have : 2 ^ 95 ≤ m := Nat.le_of_not_lt hlarge
          omega
        have hexponent : e - (count : Int) = e - (count + 1 : Nat) + 1 := by omega
        refine le_trans ?_ (ih h)
        rw [hexponent, zpow_add₀ (by norm_num), zpow_one, mul_comm _ 10, ← mul_assoc]
        gcongr
        exact_mod_cast hfifth

/-! ## Floating-point numbers -/

variable {x : Float} {negative : Bool} {m : Nat} {e : Int}

lemma one_le_scaled_two (hm : m ≠ 0) (he : 0 ≤ e) : (1 : ℚ) ≤ m * 2 ^ e := by
  obtain ⟨k, rfl⟩ := Int.eq_ofNat_of_zero_le he
  rw [zpow_natCast]
  exact_mod_cast Nat.mul_pos (Nat.pos_of_ne_zero hm) (Nat.pow_pos two_pos)

/-- The mantissa with a power of two turned into one of ten. -/
def fives? (m : Nat) (e : Int) : Option (Nat × Int) :=
  if e ≤ 0 then some (absorbFives (-e).toNat m e) else releaseFives e.toNat m e

lemma one_le_of_fives?_none (hm : m ≠ 0) (h : fives? m e = none) : (1 : ℚ) ≤ m * 2 ^ e := by
  rw [fives?] at h
  split at h
  case isTrue => cases h
  case isFalse he => exact one_le_scaled_two hm (by omega)

lemma fives?_bounds {n : Nat} {f : Int} (hm : m ≠ 0) (hbound : m < 2 * implicitBit)
    (h : fives? m e = some (n, f)) :
    (least ≤ n * 10 ^ f ↔ least ≤ m * 2 ^ e) ∧ ((1 : ℚ) ≤ n * 10 ^ f → (1 : ℚ) ≤ m * 2 ^ e) := by
  rw [fives?] at h
  split at h
  case isTrue he =>
    obtain ⟨k, rfl⟩ : ∃ k : Nat, e = -k := ⟨(-e).toNat, by omega⟩
    rw [neg_neg, Int.toNat_natCast, Option.some.injEq] at h
    have hborder := least_le_absorbFives k hbound
    have hupper := (absorbFives_bounds k m (-k)).2
    rw [five_pow_mul_ten_zpow] at hupper
    rw [h] at hborder hupper
    exact ⟨hborder, fun hone => hone.trans hupper⟩
  case isFalse he =>
    obtain ⟨k, rfl⟩ := Int.eq_ofNat_of_zero_le (Int.le_of_lt (Int.not_le.1 he))
    have hlower := le_releaseFives h
    rw [Int.toNat_natCast, sub_self, zpow_zero, mul_one] at hlower
    have hone : (1 : ℚ) ≤ m := by exact_mod_cast Nat.pos_of_ne_zero hm
    have htwo := one_le_scaled_two hm (Int.natCast_nonneg k)
    exact ⟨iff_of_true (least_le_one.trans (hone.trans hlower)) (least_le_one.trans htwo),
      fun _ => htwo⟩

lemma ofFloat?_eq (h : Reading.ofFloat x = .finite negative m e) (hm : m ≠ 0) :
    ofFloat? x = (fives? m e).bind fun (n, f) =>
      (settle? n f).map fun (mantissa, scale) => ⟨negative, mantissa, scale⟩ := by
  rw [ofFloat?, h, fives?]
  simp only [hm, if_false]
  simp only [Option.map_eq_bind]
  split <;> rfl

/-- **A floating-point number becomes zero exactly below the border.** -/
theorem ofFloat?_ne_zero {d : Decimal} (h : Reading.ofFloat x = .finite negative m e)
    (hd : ofFloat? x = some d) : d.mantissa ≠ 0 ↔ least ≤ m * 2 ^ e := by
  rcases eq_or_ne m 0 with rfl | hm
  · rw [ofFloat?, h] at hd
    cases hd
    simp [zero, least]
  · rw [ofFloat?_eq h hm, Option.bind_eq_some_iff] at hd
    obtain ⟨⟨n, f⟩, hfives, hd⟩ := hd
    obtain ⟨digits, hdigits, rfl⟩ := Option.map_eq_some_iff.1 hd
    exact (settle?_ne_zero hdigits).trans
      (fives?_bounds hm (Reading.bounded_of_finite h).lt hfives).1

/-- **A floating-point number that has no decimal is not small.** -/
theorem one_le_of_ofFloat?_none (h : Reading.ofFloat x = .finite negative m e)
    (hd : ofFloat? x = none) : (1 : ℚ) ≤ m * 2 ^ e := by
  rcases eq_or_ne m 0 with rfl | hm
  · rw [ofFloat?, h] at hd
    cases hd
  · rw [ofFloat?_eq h hm, Option.bind_eq_none_iff] at hd
    cases hfives : fives? m e with
    | none => exact one_le_of_fives?_none hm hfives
    | some scaled =>
      obtain ⟨n, f⟩ := scaled
      have hsettle := Option.map_eq_none_iff.1 (hd _ hfives)
      exact (fives?_bounds hm (Reading.bounded_of_finite h).lt hfives).2
        (one_le_of_settle?_none hsettle)

end DynamicSql.Number.Decimal
