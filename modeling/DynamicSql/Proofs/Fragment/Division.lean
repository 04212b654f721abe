import DynamicSql.Proofs.Delimited.Concatenation
import DynamicSql.Proofs.Fragment

/-!
# Divisions of joined fragments

Where two fragments are joined, a space keeps an opening or an escape from reaching across the
seam: a space is left out only behind or before characters that have no part in either. So the
tokens of joined fragments are those of the fragments (`division_append`, `tokens_join`), if no
fragment leaves one open; and then the whole leaves none open either (`terminated_append`).
-/

namespace DynamicSql.Fragment

open Delimiters

/-- A seam is nothing or one space. -/
lemma seam_eq_nil_or (a b : Text) : seam a b = [] ∨ seam a b = [' '] := by
  unfold seam
  split
  · split
    · exact .inl rfl
    · exact .inr rfl
  · exact .inl rfl

/-! ## What a seam keeps apart -/

section apart

variable {mark : Char} {a b : Text} (hopening : glued mark '{' = false)
  (hescape : glued '\\' mark = false)

include hopening hescape

/-- Texts between which no space is put are apart. -/
lemma apart_of_seam_eq_nil (h : seam a b = []) : Apart mark a b := by
  intro x hx y hy
  rw [Option.mem_def] at hx hy
  have hglued : glued x y = true := by simpa [seam, hx, hy] using h
  constructor
  · rintro ⟨rfl, rfl⟩
    rw [hopening] at hglued
    cases hglued
  · rintro ⟨rfl, rfl⟩
    rw [hescape] at hglued
    cases hglued

omit hescape in
/-- A space is no mark. -/
lemma ne_space : mark ≠ ' ' := by
  rintro rfl
  exact absurd hopening (by decide)

omit hescape in
/-- A space is apart from everything. -/
lemma apart_space_left (b : Text) : Apart mark [' '] b := by
  rintro x ⟨⟩ y -
  exact ⟨fun h => ne_space hopening h.1.symm, fun h => absurd h.1 (by decide)⟩

omit hescape in
/-- Everything is apart from a space. -/
lemma apart_space_right (a b : Text) : Apart mark a (' ' :: b) := by
  rintro x - y ⟨⟩
  exact ⟨fun h => absurd h.2 (by decide), fun h => ne_space hopening h.2.symm⟩

end apart

/-- A space has no tokens and leaves none open. -/
lemma cut?_space (mark : Char) : Text.cut? (braced mark).opening [' '] = none := by
  rw [Text.cut?_eq_none_iff]
  exact fun h => absurd h.length_le (by simp [braced])

/-- Whether a space is put wherever an opening, or the escape of one, would reach from one fragment
into the next. -/
def KeptApart (d : Delimiters) : Prop :=
  ∃ mark, d = braced mark ∧ glued mark '{' = false ∧ glued '\\' mark = false

/-- Placeholders are kept apart. -/
lemma keptApart_placeholder : KeptApart placeholder := ⟨'#', rfl, by decide, by decide⟩

/-- Substitutions are kept apart. -/
lemma keptApart_substitution : KeptApart substitution := ⟨'$', rfl, by decide, by decide⟩

/-! ## Joining -/

section joining

variable {d : Delimiters} {a b : Text} (hd : KeptApart d)

include hd

/-- **Joining neither creates nor destroys tokens**: the division of two joined fragments, of which
the first leaves no token open, is that of the one, the seam, and that of the other. -/
theorem division_append (ha : d.Terminated a) (b : Text) :
    d.division (append a b) =
      d.division a ++ (Division.literal (seam a b) ++ d.division b) := by
  obtain ⟨mark, rfl, hopening, hescape⟩ := hd
  rw [append, List.append_assoc]
  rcases seam_eq_nil_or a b with h | h
  · rw [h, List.nil_append, Division.literal_nil_append]
    exact Delimiters.division_append ha (apart_of_seam_eq_nil hopening hescape h)
  · rw [h, ← division_of_none (cut?_space mark)]
    exact (Delimiters.division_append ha (apart_space_right hopening a b)).trans (congrArg _
      (Delimiters.division_append (.plain (cut?_space mark)) (apart_space_left hopening b)))

/-- **What leaves no token open stays so** when it is joined. -/
theorem terminated_append (ha : d.Terminated a) (hb : d.Terminated b) :
    d.Terminated (append a b) := by
  obtain ⟨mark, rfl, hopening, hescape⟩ := hd
  rw [append, List.append_assoc]
  rcases seam_eq_nil_or a b with h | h
  · rw [h, List.nil_append]
    exact Terminated.append ha (apart_of_seam_eq_nil hopening hescape h) hb
  · rw [h]
    exact Terminated.append ha (apart_space_right hopening a b)
      (Terminated.append (.plain (cut?_space mark)) (apart_space_left hopening b) hb)

/-- The tokens of two joined fragments. -/
lemma tokens_append (ha : d.Terminated a) (b : Text) :
    d.tokens (append a b) = d.tokens a ++ d.tokens b := by
  rw [← contents_division, division_append hd ha, Division.contents_append,
    Division.contents_append, Division.contents_literal, List.nil_append, contents_division,
    contents_division]

/-- **The tokens of joined fragments** are those of the fragments, in order. -/
theorem tokens_join {fragments : List Text} (h : ∀ f ∈ fragments, d.Terminated f) :
    d.tokens (join fragments) = fragments.flatMap d.tokens := by
  induction fragments with
  | nil =>
      have hcut : Text.cut? d.opening [] = none := by
        rw [Text.cut?_eq_none_iff, List.infix_nil]
        exact d.opening_ne_nil
      rw [join_nil, ← contents_division, division_of_none hcut]
      rfl
  | cons f rest ih =>
      rw [List.forall_mem_cons] at h
      rw [join_cons, tokens_append hd h.1, ih h.2, List.flatMap_cons]

end joining

end DynamicSql.Fragment
