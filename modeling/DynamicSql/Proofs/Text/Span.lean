import DynamicSql.Text.Blank
import DynamicSql.Text.Letter
import Mathlib.Data.List.DropRight
import Mathlib.Tactic.Lemma

/-!
# Spans of a text

Names, numbers and white space are read as the longest span of characters of a kind. A span is
found again in front of anything that does not go on with such a character (`takeWhile_span`,
`dropWhile_span`), and no character of a name is white space.
-/

namespace DynamicSql.Text

/-! ## The longest span -/

section span

variable {kind : Char → Bool} {s t : Text}

/-- A span in front of a text that does not go on with it. -/
lemma takeWhile_span (hs : s.all kind = true) (ht : ∀ c ∈ t.head?, kind c = false) :
    (s ++ t).takeWhile kind = s := by
  rw [List.takeWhile_append_of_pos (List.all_eq_true.1 hs)]
  cases t with
  | nil => simp
  | cons c t => rw [List.takeWhile_cons, ht c rfl, if_neg Bool.false_ne_true, List.append_nil]

/-- What is left behind a span. -/
lemma dropWhile_span (hs : s.all kind = true) (ht : ∀ c ∈ t.head?, kind c = false) :
    (s ++ t).dropWhile kind = t := by
  rw [List.dropWhile_append_of_pos (List.all_eq_true.1 hs)]
  cases t with
  | nil => rfl
  | cons c t => rw [List.dropWhile_cons, ht c rfl, if_neg Bool.false_ne_true]

/-- A span ends in front of a character of another kind. -/
lemma of_mem_head?_dropWhile {c : Char} (h : c ∈ (s.dropWhile kind).head?) : kind c = false := by
  have hnot := List.head?_dropWhile_not kind s
  rw [Option.mem_def.1 h] at hnot
  exact hnot

end span

/-! ## White space -/

/-- A code point lies in ranges if it lies in one of them. -/
lemma inRanges_iff {code : Nat} {ranges : List (Nat × Nat)} :
    inRanges code ranges = true ↔
      ∃ range ∈ ranges, code ∈ List.range' range.1 (range.2 + 1 - range.1) := by
  simp only [inRanges, List.any_eq_true, Bool.and_eq_true, decide_eq_true_eq, List.mem_range'_1]
  refine exists_congr fun range => and_congr_right fun _ => ?_
  omega

/-- What holds of all code points of a range holds of the characters in it. -/
lemma of_mem_range' {P : Char → Prop} {c : Char} {first count : Nat}
    (hc : c.toNat ∈ List.range' first count)
    (h : ∀ code ∈ List.range' first count, P (Char.ofNat code)) : P c := by
  have hcode := h c.toNat hc
  rwa [Char.ofNat_toNat] at hcode

/-- No character of a name is white space. -/
lemma isBlank_of_continuesName {c : Char} (h : continuesName c = true) : isBlank c = false := by
  have hblanks : ∀ range ∈ whiteSpace, ∀ code ∈ List.range' range.1 (range.2 + 1 - range.1),
      continuesName (Char.ofNat code) = false := by decide +kernel
  rw [← Bool.not_eq_true]
  intro hblank
  obtain ⟨range, hrange, hcode⟩ := inRanges_iff.1 hblank
  have hname := of_mem_range' (P := (continuesName · = false)) hcode (hblanks range hrange)
  rw [h] at hname
  cases hname

/-- No character that begins a name is white space. -/
lemma isBlank_of_startsName {c : Char} (h : startsName c = true) : isBlank c = false :=
  isBlank_of_continuesName (continuesName_of_startsName h)

/-- White space is dropped only where there is some. -/
lemma trimStart_cons {c : Char} (h : isBlank c = false) (s : Text) :
    trimStart (c :: s) = c :: s := by
  rw [trimStart, List.dropWhile_cons, h, if_neg Bool.false_ne_true]

/-- The end of a concatenation is trimmed in its last part that is not blank. -/
lemma trimEnd_append (a b : Text) :
    trimEnd (a ++ b) = if trimEnd b = [] then trimEnd a else a ++ trimEnd b := by
  simp only [trimEnd, List.reverse_append, List.dropWhile_append, List.reverse_eq_nil_iff,
    List.isEmpty_iff]
  split
  · rfl
  · rw [List.reverse_append, List.reverse_reverse]

/-- White space is dropped from the end only where there is some. -/
lemma trimEnd_of_getLast? {s : Text} (h : ∀ c ∈ s.getLast?, isBlank c = false) :
    trimEnd s = s := by
  rcases List.eq_nil_or_concat s with rfl | ⟨s, c, rfl⟩
  · rfl
  · rw [trimEnd, List.concat_eq_append, List.reverse_concat, List.dropWhile_cons, h c (by simp),
      if_neg Bool.false_ne_true, ← List.reverse_concat, List.reverse_reverse]

/-- Nothing is left of white space. -/
lemma trimEnd_of_all_isBlank {s : Text} (h : s.all isBlank = true) : trimEnd s = [] := by
  have hblank : ∀ c ∈ s.reverse, isBlank c = true := fun c hc =>
    List.all_eq_true.1 h c (List.mem_reverse.1 hc)
  rw [trimEnd, ← List.append_nil s.reverse, List.dropWhile_append_of_pos hblank]
  rfl

/-- Whether a text has a last character, which is no white space. -/
def endsSolid (s : Text) : Bool := s.getLast?.any (!isBlank ·)

lemma ne_nil_of_endsSolid {s : Text} (h : endsSolid s = true) : s ≠ [] := by
  rintro rfl
  cases h

/-- A concatenation ends as its last part. -/
lemma endsSolid_append (s : Text) {t : Text} (h : endsSolid t = true) :
    endsSolid (s ++ t) = true := by
  obtain ⟨c, hlast, hsolid⟩ := (Option.any_eq_true _ _).1 h
  rw [endsSolid, List.getLast?_append, hlast]
  exact hsolid

/-- The last part of a concatenation ends as the whole. -/
lemma endsSolid_of_append {s t : Text} (h : endsSolid (s ++ t) = true) (ht : t ≠ []) :
    endsSolid t = true := by
  rwa [endsSolid, List.getLast?_append_of_ne_nil s ht] at h

/-- Nothing is trimmed off a text that neither begins nor ends with white space. -/
lemma trim_of_endsSolid {c : Char} {s : Text} (hfirst : isBlank c = false)
    (h : endsSolid (c :: s) = true) : trim (c :: s) = c :: s := by
  have hlast : ∀ x ∈ (c :: s).getLast?, isBlank x = false := by
    intro x hx
    rw [endsSolid, Option.mem_def.1 hx] at h
    simpa using h
  rw [trim, trimStart_cons hfirst, trimEnd_of_getLast? hlast]

/-- Nothing is trimmed off a text without white space. -/
lemma trim_of_forall_mem {s : Text} (h : ∀ c ∈ s, isBlank c = false) : trim s = s := by
  have hend : trimEnd s = s := trimEnd_of_getLast? fun c hc => h c (List.mem_of_getLast? hc)
  cases s with
  | nil => rfl
  | cons c s => rw [trim, trimStart_cons (h c List.mem_cons_self), hend]

/-- Trimming the end leaves a prefix. -/
lemma trimEnd_prefix (s : Text) : trimEnd s <+: s := List.rdropWhile_prefix isBlank s

/-- A trimmed text does not begin with white space. -/
lemma isBlank_of_mem_head?_trim {s : Text} {c : Char} (h : c ∈ (trim s).head?) :
    isBlank c = false := by
  obtain ⟨u, hu⟩ := trimEnd_prefix (trimStart s)
  have hhead : (trimStart s).head? = some c := by
    rw [← hu, List.head?_append]
    exact congrArg (·.or u.head?) h
  exact of_mem_head?_dropWhile hhead

/-- A trimmed text does not end with white space. -/
lemma endsSolid_trim {s : Text} (h : trim s ≠ []) : endsSolid (trim s) = true := by
  have hlast := List.rdropWhile_last_not isBlank (trimStart s) h
  rw [endsSolid, List.getLast?_eq_getLast_of_ne_nil h, Option.any_some, Bool.not_eq_true']
  exact Bool.eq_false_iff.2 hlast

/-- A text that does not end with white space is more than white space. -/
lemma allBlank_of_endsSolid {s : Text} (h : endsSolid s = true) : allBlank s = false := by
  obtain ⟨c, hlast, hsolid⟩ := (Option.any_eq_true _ _).1 h
  rw [allBlank, List.all_eq_false]
  exact ⟨c, List.mem_of_getLast? hlast, by simpa using hsolid⟩

/-- The white space that leads a text, and the rest. -/
lemma exists_append_trimStart (s : Text) :
    ∃ blanks : Text, blanks.all isBlank = true ∧ s = blanks ++ trimStart s :=
  ⟨s.takeWhile isBlank, List.all_takeWhile, List.takeWhile_append_dropWhile.symm⟩

/-- Nothing is trimmed off before a character that is no white space. -/
lemma trimEnd_cons {c : Char} (h : isBlank c = false) (s : Text) :
    trimEnd (c :: s) = c :: trimEnd s := by
  rw [← List.singleton_append, trimEnd_append]
  split
  · next hblank =>
    rw [hblank]
    exact trimEnd_of_getLast? (by rintro d ⟨⟩; exact h)
  · rfl

/-- White space at the start is dropped only once. -/
lemma trim_trimStart (s : Text) : trim (trimStart s) = trim s := by
  rw [trim, trim, trimStart, trimStart, List.dropWhile_idempotent]

/-- White space at the end is dropped only once. -/
lemma trim_trimEnd (s : Text) : trim (trimEnd s) = trim s := by
  obtain ⟨blanks, hblanks, heq⟩ := exists_append_trimStart s
  rcases hcore : trimStart s with _ | ⟨c, core⟩
  · rw [hcore, List.append_nil] at heq
    have hend : trimEnd s = [] := by
      rw [heq]
      exact trimEnd_of_all_isBlank hblanks
    rw [hend, trim, trim, hcore]
    rfl
  · have hc : isBlank c = false :=
      of_mem_head?_dropWhile (by rw [← trimStart, hcore]; rfl : c ∈ (s.dropWhile isBlank).head?)
    have hend : trimEnd s = blanks ++ c :: trimEnd core := by
      rw [heq, hcore, trimEnd_append, trimEnd_cons hc, if_neg (List.cons_ne_nil _ _)]
    have hstart : trimStart (blanks ++ c :: trimEnd core) = c :: trimEnd core := by
      rw [trimStart, List.dropWhile_append_of_pos (List.all_eq_true.1 hblanks), ← trimStart,
        trimStart_cons hc]
    rw [trim, hend, hstart, trim, hcore, ← trimEnd_cons hc]
    exact List.rdropWhile_idempotent isBlank (c :: core)

/-- A trimmed text stays as it is. -/
lemma trim_trim (s : Text) : trim (trim s) = trim s := by
  rw [trim.eq_def s, trim_trimEnd, trim_trimStart, trim]

/-- Where nothing is left, there was nothing but white space. -/
lemma allBlank_of_trim_eq_nil {s : Text} (h : trim s = []) : allBlank s = true := by
  obtain ⟨blanks, hblanks, heq⟩ := exists_append_trimStart s
  have hcore : (trimStart s).all isBlank = true := List.all_eq_true.2 (List.rdropWhile_eq_nil_iff.1 h)
  rw [allBlank, heq, List.all_append, hblanks, hcore]
  rfl

/-! ## Names -/

/-- A name begins with a character that may begin names. -/
lemma exists_of_isName {s : Text} (h : isName s = true) :
    ∃ c rest, s = c :: rest ∧ startsName c = true ∧ s.all continuesName = true := by
  cases s with
  | nil => cases h
  | cons c rest =>
      rw [isName, Bool.and_eq_true] at h
      refine ⟨c, rest, rfl, h.1, ?_⟩
      rw [List.all_cons, continuesName_of_startsName h.1, h.2]
      rfl

/-- A name holds characters of names only. -/
lemma continuesName_of_mem {s : Text} (h : isName s = true) {c : Char} (hc : c ∈ s) :
    continuesName c = true := by
  obtain ⟨-, -, -, -, hall⟩ := exists_of_isName h
  exact List.all_eq_true.1 hall c hc

/-- What is part of no name is not in one. -/
lemma not_mem_of_isName {s : Text} (h : isName s = true) {c : Char}
    (hc : continuesName c = false) : c ∉ s := by
  intro hmem
  rw [continuesName_of_mem h hmem] at hc
  cases hc

/-- Nothing is trimmed off before a name. -/
lemma trimStart_name_append {s : Text} (h : isName s = true) (t : Text) :
    trimStart (s ++ t) = s ++ t := by
  obtain ⟨c, rest, rfl, hc, -⟩ := exists_of_isName h
  exact trimStart_cons (isBlank_of_startsName hc) _

/-- There are no empty names. -/
lemma ne_nil_of_isName {s : Text} (h : isName s = true) : s ≠ [] := by
  rintro rfl
  cases h

/-- A name goes on with characters of names. -/
lemma isName_append {s t : Text} (hs : isName s = true) (ht : t.all continuesName = true) :
    isName (s ++ t) = true := by
  cases s with
  | nil => cases hs
  | cons c s =>
      rw [isName, Bool.and_eq_true] at hs
      rw [List.cons_append, isName, List.all_append, hs.1, hs.2, ht]
      rfl

/-! ## Digits -/

/-- Digits may stand in names. -/
lemma continuesName_of_isDigit {c : Char} (h : c.isDigit = true) : continuesName c = true := by
  have hascii : c.toNat < 0x80 := by
    simp only [Char.isDigit, Bool.and_eq_true, decide_eq_true_eq] at h
    exact Nat.lt_of_le_of_lt (UInt32.le_iff_toNat_le.1 h.2) (by decide)
  simp [continuesName, isLetterOrNumeral, isNumeral, hascii, h]

/-- No name begins with a digit. -/
lemma startsName_of_isDigit {c : Char} (h : c.isDigit = true) : startsName c = false := by
  simp only [Char.isDigit, Bool.and_eq_true, decide_eq_true_eq] at h
  have hle : 48 ≤ c.toNat ∧ c.toNat ≤ 57 :=
    ⟨UInt32.le_iff_toNat_le.1 h.1, UInt32.le_iff_toNat_le.1 h.2⟩
  have hdigits : ∀ code ∈ List.range' 48 10, startsName (Char.ofNat code) = false := by
    decide +kernel
  have hcode : c.toNat ∈ List.range' 48 10 := List.mem_range'_1.2 (by omega)
  exact of_mem_range' (P := (startsName · = false)) hcode hdigits

/-- A number in decimal is written in digits. -/
lemma isDigit_of_mem_ofNat {n : Nat} {c : Char} (h : c ∈ ofNat n) : c.isDigit = true :=
  Nat.isDigit_of_mem_toDigits (by decide) (by decide) h

/-- A number in decimal holds no other characters. -/
lemma not_mem_ofNat {c : Char} (hc : c.isDigit = false) (n : Nat) : c ∉ ofNat n := by
  intro h
  rw [isDigit_of_mem_ofNat h] at hc
  cases hc

/-- Decimal digits may stand in names. -/
lemma all_continuesName_ofNat (n : Nat) : (ofNat n).all continuesName = true :=
  List.all_eq_true.2 fun _ hc => continuesName_of_isDigit (isDigit_of_mem_ofNat hc)

end DynamicSql.Text
