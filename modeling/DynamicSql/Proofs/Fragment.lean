import DynamicSql.Fragment
import DynamicSql.Proofs.Text.Span
import Mathlib.Data.List.Basic

/-!
# Laws of joining

Whether a space stands between two texts depends on the last character of the one and the first
character of the other only, and a fragment that holds anything shields what is before it from
what is behind it. So joining is associative (`append_assoc`), and fragments may be joined in
groups (`appendAll_eq_append_join`, `join_append`). `spread` puts separators between them.
-/

namespace DynamicSql.Fragment

/-! ## Associativity -/

/-- What is put behind a text is decided by its end. -/
lemma seam_of_append (a c : Text) {b : Text} (hb : b ≠ []) : seam (a ++ b) c = seam b c := by
  rw [seam, seam, List.getLast?_append_of_ne_nil a hb]

/-- What is put behind a text with a fragment more is decided by that fragment. -/
lemma seam_append_left (a c : Text) {b : Text} (hb : b ≠ []) : seam (append a b) c = seam b c := by
  rw [append, seam_of_append _ c hb]

/-- What is put before a fragment is decided by its start. -/
lemma seam_append_right (a c : Text) {b : Text} (hb : b ≠ []) : seam a (append b c) = seam a b := by
  have hhead : (append b c).head? = b.head? := by
    rw [append, List.append_assoc, List.head?_append_of_ne_nil b hb]
  rw [seam, seam, hhead]

/-- **Joining is associative.** -/
theorem append_assoc (a b c : Text) : append (append a b) c = append a (append b c) := by
  by_cases hb : b = []
  · rw [hb, append_nil, nil_append]
  · calc append (append a b) c
        = a ++ seam a b ++ b ++ seam b c ++ c := by
          rw [append, seam_append_left a c hb, append]
      _ = a ++ seam a b ++ (b ++ seam b c ++ c) := by simp only [List.append_assoc]
      _ = append a (append b c) := by rw [append, seam_append_right a c hb, append]

/-- A fragment is joined to the end of a text. -/
lemma append_of_append (a c : Text) {b : Text} (hb : b ≠ []) :
    append (a ++ b) c = a ++ append b c := by
  simp only [append, seam_of_append a c hb, List.append_assoc]

/-- A text with a fragment more begins with the text. -/
lemma prefix_append (a b : Text) : a <+: append a b :=
  ⟨seam a b ++ b, by rw [append, List.append_assoc]⟩

/-! ## Several fragments -/

@[simp] lemma appendAll_nil (buffer : Text) : appendAll buffer [] = buffer := rfl

@[simp] lemma appendAll_cons (buffer f : Text) (rest : List Text) :
    appendAll buffer (f :: rest) = appendAll (append buffer f) rest := rfl

/-- Fragments may be added in two steps. -/
lemma appendAll_append (buffer : Text) (fs gs : List Text) :
    appendAll buffer (fs ++ gs) = appendAll (appendAll buffer fs) gs :=
  List.foldl_append

/-- **Several fragments count as one**: they may be joined before they are added. -/
theorem appendAll_eq_append_join (buffer : Text) (fragments : List Text) :
    appendAll buffer fragments = append buffer (join fragments) := by
  unfold join
  induction fragments generalizing buffer with
  | nil => rw [appendAll_nil, appendAll_nil, append_nil]
  | cons f rest ih =>
      rw [appendAll_cons, appendAll_cons, nil_append, ih, ih f, append_assoc]

/-- The fragments of two lists are joined list by list. -/
theorem join_append (fs gs : List Text) : join (fs ++ gs) = append (join fs) (join gs) := by
  rw [join, appendAll_append, appendAll_eq_append_join]
  rfl

@[simp] lemma join_nil : join [] = [] := rfl

@[simp] lemma join_singleton (f : Text) : join [f] = f := nil_append f

/-- The first fragment is joined to the others. -/
lemma join_cons (f : Text) (rest : List Text) : join (f :: rest) = append f (join rest) := by
  rw [← List.singleton_append, join_append, join_singleton]

/-- Joined fragments end as the last of them. -/
lemma endsSolid_join {fragments : List Text} (hne : fragments ≠ [])
    (h : ∀ f ∈ fragments, Text.endsSolid f = true) : Text.endsSolid (join fragments) = true := by
  induction fragments with
  | nil => exact absurd rfl hne
  | cons f rest ih =>
      rw [List.forall_mem_cons] at h
      rw [join_cons]
      by_cases hrest : rest = []
      · rw [hrest, join_nil, append_nil]
        exact h.1
      · rw [append]
        exact Text.endsSolid_append _ (ih hrest h.2)

/-! ## Separators -/

/-- Fragments with a separator in between, if there is one. -/
def spread (separator : Option Text) (fragments : List Text) : List Text :=
  separator.toList.intercalate (fragments.map ([·]))

/-- A separator stands behind every fragment but the last one. -/
lemma spread_cons (separator : Option Text) (f : Text) (rest : List Text) :
    spread separator (f :: rest) =
      f :: ((if rest.isEmpty then [] else separator.toList) ++ spread separator rest) := by
  cases rest with
  | nil => simp [spread]
  | cons g rest => simp [spread, List.intercalate_cons_of_ne_nil]

/-- Every fragment is one of those that are spread, or the separator. -/
lemma mem_spread {separator : Option Text} {fragments : List Text} {f : Text}
    (h : f ∈ spread separator fragments) : f ∈ separator ∨ f ∈ fragments := by
  induction fragments with
  | nil => cases h
  | cons g rest ih =>
      rw [spread_cons, List.mem_cons, List.mem_append] at h
      rcases h with rfl | h | h
      · exact .inr List.mem_cons_self
      · split at h
        · cases h
        · exact .inl (Option.mem_toList.1 h)
      · exact (ih h).imp_right (List.mem_cons_of_mem g)

/-- What separators have nothing of is that of the fragments. -/
lemma flatMap_spread {α : Type} {separator : Option Text} {g : Text → List α}
    (h : ∀ s ∈ separator, g s = []) (fragments : List Text) :
    (spread separator fragments).flatMap g = fragments.flatMap g := by
  have hseparator : separator.toList.flatMap g = [] := by
    rw [List.flatMap_eq_nil_iff]
    exact fun s hs => h s (Option.mem_toList.1 hs)
  induction fragments with
  | nil => rfl
  | cons f rest ih =>
      rw [spread_cons, List.flatMap_cons, List.flatMap_append, ih, List.flatMap_cons]
      split
      · rfl
      · rw [hseparator, List.nil_append]

end DynamicSql.Fragment
