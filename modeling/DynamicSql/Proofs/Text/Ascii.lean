import DynamicSql.Proofs.Text.Span

/-!
# Texts in upper case, and their sizes

Upper case of ASCII letters changes neither what is white space (`trim_upperAscii`) nor how many
bytes a text takes (`utf8Length_upperAscii`). So an override is found in a text of any case, and the
bytes to be cut off can be counted in the override.
-/

namespace DynamicSql.Text

/-! ## Upper case -/

@[simp] lemma upperAscii_append (s t : Text) : upperAscii (s ++ t) = upperAscii s ++ upperAscii t :=
  List.map_append

lemma upperAscii_take (n : Nat) (s : Text) : (upperAscii s).take n = upperAscii (s.take n) :=
  List.map_take.symm

lemma upperAscii_drop (n : Nat) (s : Text) : (upperAscii s).drop n = upperAscii (s.drop n) :=
  List.map_drop.symm

/-- Small letters of ASCII are the only characters that are changed. -/
lemma toUpper_eq_or (c : Char) : c.toUpper = c ∨ c.toNat ∈ List.range' 97 26 := by
  by_cases h : 'a'.val ≤ c.val ∧ c.val ≤ 'z'.val
  · have hle : 97 ≤ c.toNat ∧ c.toNat ≤ 122 :=
      ⟨UInt32.le_iff_toNat_le.1 h.1, UInt32.le_iff_toNat_le.1 h.2⟩
    exact .inr (List.mem_range'_1.2 ⟨hle.1, by omega⟩)
  · exact .inl (dif_neg h)

/-- Upper case makes no white space and takes as many bytes. -/
lemma toUpper_alike (c : Char) :
    isBlank c.toUpper = isBlank c ∧ c.toUpper.utf8Size = c.utf8Size := by
  have hletters : ∀ code ∈ List.range' 97 26,
      isBlank (Char.ofNat code).toUpper = isBlank (Char.ofNat code) ∧
        (Char.ofNat code).toUpper.utf8Size = (Char.ofNat code).utf8Size := by decide +kernel
  rcases toUpper_eq_or c with h | h
  · rw [h]
    exact ⟨rfl, rfl⟩
  · exact of_mem_range'
      (P := fun c => isBlank c.toUpper = isBlank c ∧ c.toUpper.utf8Size = c.utf8Size) h hletters

/-- Upper case makes no comma. -/
lemma toUpper_eq_comma_iff {c : Char} : c.toUpper = ',' ↔ c = ',' := by
  have hletters : ∀ code ∈ List.range' 97 26, (Char.ofNat code).toUpper ≠ ',' := by decide
  constructor
  · intro h
    rcases toUpper_eq_or c with hsame | hletter
    · exact hsame.symm.trans h
    · exact absurd h (of_mem_range' (P := fun c => c.toUpper ≠ ',') hletter hletters)
  · rintro rfl
    rfl

/-- Upper case does not change whether a text ends with white space. -/
lemma endsSolid_upperAscii (s : Text) : endsSolid (upperAscii s) = endsSolid s := by
  rw [endsSolid, endsSolid, upperAscii, List.getLast?_map, Option.any_map]
  refine congrArg (s.getLast?.any ·) (funext fun c => ?_)
  rw [(toUpper_alike c).1]

/-- Upper case keeps the white space that is dropped. -/
lemma dropWhile_upperAscii (s : Text) :
    (upperAscii s).dropWhile isBlank = upperAscii (s.dropWhile isBlank) := by
  have hblank : isBlank ∘ Char.toUpper = isBlank := funext fun c => (toUpper_alike c).1
  rw [upperAscii, List.dropWhile_map, hblank, upperAscii]

/-- **Upper case and trimming** may be done in either order. -/
theorem trim_upperAscii (s : Text) : trim (upperAscii s) = upperAscii (trim s) := by
  have hreverse (t : Text) : (upperAscii t).reverse = upperAscii t.reverse := List.map_reverse.symm
  rw [trim, trimStart, trimEnd, dropWhile_upperAscii, hreverse, dropWhile_upperAscii, hreverse]
  rfl

/-! ## Bytes -/

@[simp] lemma utf8Length_nil : utf8Length [] = 0 := rfl

@[simp] lemma utf8Length_cons (c : Char) (s : Text) :
    utf8Length (c :: s) = c.utf8Size + utf8Length s := rfl

@[simp] lemma utf8Length_append (s t : Text) :
    utf8Length (s ++ t) = utf8Length s + utf8Length t := by
  induction s with
  | nil => simp
  | cons c s ih => simp [ih, Nat.add_assoc]

@[simp] lemma utf8Length_reverse (s : Text) : utf8Length s.reverse = utf8Length s := by
  induction s with
  | nil => rfl
  | cons c s ih => simp [ih, Nat.add_comm]

/-- The end of a text takes no more bytes than the text. -/
lemma utf8Length_le_of_suffix {s t : Text} (h : s <:+ t) : utf8Length s ≤ utf8Length t := by
  obtain ⟨u, rfl⟩ := h
  rw [utf8Length_append]
  exact Nat.le_add_left _ _

/-- Upper case takes as many bytes. -/
@[simp] lemma utf8Length_upperAscii (s : Text) : utf8Length (upperAscii s) = utf8Length s := by
  induction s with
  | nil => rfl
  | cons c s ih =>
      change c.toUpper.utf8Size + utf8Length (upperAscii s) = c.utf8Size + utf8Length s
      rw [(toUpper_alike c).2, ih]

end DynamicSql.Text
