/-!
# Texts

A text is a list of characters. SQL fragments, expressions, names and string values are all
texts; `String` appears only where one is written as a literal or leaves the library.

`cut?` splits a text at the first occurrence of a mark, and every reader of delimited text is
built on it. Main statement: the two parts of a cut put the text together again (`cut?_append`).
-/

namespace DynamicSql

/-- A sequence of characters. -/
abbrev Text := List Char

namespace Text

/-! ## Finding a mark -/

/-- What stands before and after the first occurrence of `mark`. -/
def cut? (mark : Text) : Text → Option (Text × Text)
  | [] => if mark.isEmpty then some ([], []) else none
  | c :: rest =>
    match mark.isPrefixOf? (c :: rest) with
    | some after => some ([], after)
    | none => (cut? mark rest).map fun (before, after) => (c :: before, after)

/-- Whether `mark` occurs anywhere in `s`. -/
def occurs (mark s : Text) : Bool := (cut? mark s).isSome

theorem isPrefixOf?_eq_some {mark s after : Text} (h : mark.isPrefixOf? s = some after) :
    s = mark ++ after := by
  induction mark generalizing s with
  | nil => exact Option.some.inj h
  | cons m ms ih =>
    cases s with
    | nil => cases h
    | cons c cs =>
      change (if m == c then ms.isPrefixOf? cs else none) = some after at h
      split at h
      · next heq => simp [ih h, beq_iff_eq.1 heq]
      · cases h

/-- **A cut loses nothing**: the text is the part before, the mark and the part after. -/
theorem cut?_append {mark s before after : Text} (h : cut? mark s = some (before, after)) :
    s = before ++ mark ++ after := by
  induction s generalizing before with
  | nil =>
    simp only [cut?] at h
    split at h
    · next hm => simp_all [List.isEmpty_iff]
    · cases h
  | cons c rest ih =>
    simp only [cut?] at h
    split at h
    · next rest' hp =>
      obtain ⟨rfl, rfl⟩ := by simpa using h
      simpa using isPrefixOf?_eq_some hp
    · obtain ⟨⟨b, a⟩, hb, heq⟩ := Option.map_eq_some_iff.1 h
      obtain ⟨rfl, rfl⟩ := by simpa using heq
      simp [ih hb]

/-- The part after a cut is shorter than the text by the mark and the part before. -/
theorem length_of_cut? {mark s before after : Text} (h : cut? mark s = some (before, after)) :
    s.length = before.length + mark.length + after.length := by
  rw [cut?_append h]; simp [Nat.add_assoc]

/-! ## Numbers in decimal -/

/-- The decimal digits of a natural number, without leading zeros. -/
def ofNat (n : Nat) : Text := Nat.toDigits 10 n

/-- The decimal digits of an integer, after a minus sign if it is negative. -/
def ofInt : Int → Text
  | .ofNat n => ofNat n
  | .negSucc n => '-' :: ofNat (n + 1)

/-- The number that a sequence of decimal digits stands for. -/
def toNat (digits : Text) : Nat := Nat.ofDigitChars 10 digits 0

theorem toNat_ofNat (n : Nat) : toNat (ofNat n) = n :=
  Nat.ofDigitChars_toDigits (by decide) (by decide)

/-- The value of a hexadecimal digit. -/
def hexValue? (c : Char) : Option Nat :=
  if c.isDigit then some (c.toNat - '0'.toNat)
  else if 'a' ≤ c ∧ c ≤ 'f' then some (c.toNat - 'a'.toNat + 10)
  else if 'A' ≤ c ∧ c ≤ 'F' then some (c.toNat - 'A'.toNat + 10)
  else none

/-! ## ASCII letters -/

/-- The text with the letters `a` to `z` in upper case and all else unchanged. -/
def upperAscii (s : Text) : Text := s.map Char.toUpper

@[simp] theorem length_upperAscii (s : Text) : (upperAscii s).length = s.length :=
  List.length_map ..

/-- How many bytes the text takes in UTF-8. -/
def utf8Length (s : Text) : Nat := s.foldr (fun c n => c.utf8Size + n) 0

end Text

end DynamicSql
