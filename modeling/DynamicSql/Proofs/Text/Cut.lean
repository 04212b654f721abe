import DynamicSql.Delimited
import Mathlib.Data.List.Basic

/-!
# Cuts of longer texts

A cut is taken at the first occurrence of a mark: characters are passed over until the mark begins
(`cut?_eq_some_iff`). What is written behind the cut does not move it (`cut?_append_of_cut?`), what
stands before a text without the mark only lengthens the first part (`cut?_append_of_apart`), and
there is no cut exactly where the mark does not occur (`cut?_eq_none_iff`).
-/

namespace DynamicSql.Text

variable {mark s t before after : Text}

/-! ## One step of a cut -/

/-- A mark that leads a text is cut off with nothing before it. -/
lemma cut?_mark_append (mark t : Text) : cut? mark (mark ++ t) = some ([], t) := by
  have hp : mark.isPrefixOf? (mark ++ t) = some t :=
    List.isPrefixOf?_eq_some_iff_append_eq.2 rfl
  cases hs : mark ++ t with
  | nil =>
      obtain ⟨rfl, rfl⟩ := List.append_eq_nil_iff.1 hs
      simp [cut?]
  | cons c rest =>
      rw [hs] at hp
      rw [cut?, hp]

/-- A character where the mark does not begin stands before the cut. -/
lemma cut?_cons_of_not_isPrefix {c : Char} (h : ¬ mark <+: c :: s) :
    cut? mark (c :: s) = (cut? mark s).map fun (before, after) => (c :: before, after) := by
  have hno : mark.isPrefixOf? (c :: s) = none := by
    rw [Option.eq_none_iff_forall_not_mem]
    intro rest hrest
    exact h ⟨rest, List.isPrefixOf?_eq_some_iff_append_eq.1 hrest⟩
  rw [cut?, hno]

/-- How a cut is found: the characters where the mark does not begin are passed over. -/
inductive Cuts (mark : Text) : Text → Text → Text → Prop where
  /-- The mark leads the text. -/
  | here (after : Text) : Cuts mark (mark ++ after) [] after
  /-- The mark does not begin at the first character. -/
  | later {s before after : Text} {c : Char} (hno : ¬ mark <+: c :: s)
      (rest : Cuts mark s before after) : Cuts mark (c :: s) (c :: before) after

/-- What is cut is found by passing over characters, and the other way round. -/
lemma cut?_eq_some_iff : cut? mark s = some (before, after) ↔ Cuts mark s before after := by
  constructor
  · intro h
    induction s generalizing before with
    | nil =>
        cases mark with
        | cons m ms => simp [cut?] at h
        | nil =>
            obtain ⟨rfl, rfl⟩ : [] = before ∧ [] = after := by simpa [cut?] using h
            exact .here []
    | cons c s ih =>
        by_cases hp : mark <+: c :: s
        · obtain ⟨t, ht⟩ := hp
          rw [← ht, cut?_mark_append] at h
          obtain ⟨rfl, rfl⟩ := Prod.mk.inj (Option.some.inj h)
          exact ht ▸ .here t
        · rw [cut?_cons_of_not_isPrefix hp] at h
          obtain ⟨⟨b, a⟩, hcut, heq⟩ := Option.map_eq_some_iff.1 h
          obtain ⟨rfl, rfl⟩ : c :: b = before ∧ a = after := by simpa using heq
          exact .later hp (ih hcut)
  · intro h
    induction h with
    | here after => exact cut?_mark_append mark after
    | later hno rest ih => rw [cut?_cons_of_not_isPrefix hno, ih, Option.map_some]

/-! ## Cuts -/

/-- There is no cut where the mark does not occur. -/
theorem cut?_eq_none_iff : cut? mark s = none ↔ ¬ mark <:+: s := by
  induction s with
  | nil =>
      cases mark with
      | nil => simp [cut?]
      | cons m ms => simp [cut?]
  | cons c rest ih =>
      rw [List.infix_cons_iff]
      by_cases hp : mark <+: c :: rest
      · obtain ⟨t, ht⟩ := hp
        have hcut : cut? mark (c :: rest) = some ([], t) := ht ▸ cut?_mark_append mark t
        rw [hcut]
        simp [← ht]
      · rw [cut?_cons_of_not_isPrefix hp]
        simp [ih, hp]

/-- **What follows a cut does not move it.** -/
theorem cut?_append_of_cut? (h : cut? mark s = some (before, after)) (t : Text) :
    cut? mark (s ++ t) = some (before, after ++ t) := by
  rw [cut?_eq_some_iff] at h ⊢
  induction h with
  | here after =>
      rw [List.append_assoc]
      exact .here (after ++ t)
  | @later s before after c hno rest ih =>
      -- the mark fits into `s`, so that it would have begun without what follows
      have hlen := length_of_cut? (cut?_eq_some_iff.2 rest)
      refine .later (fun hp => hno ?_) ih
      refine List.prefix_of_prefix_length_le hp (List.prefix_append (c :: s) t) ?_
      rw [List.length_cons]
      omega

/-- The mark does not occur before the cut. -/
theorem cut?_before (h : cut? mark s = some (before, after)) (hmark : mark ≠ []) :
    cut? mark before = none := by
  induction cut?_eq_some_iff.1 h with
  | here after => simp [cut?, hmark]
  | @later s before after c hno rest ih =>
      have hcut := cut?_eq_some_iff.2 rest
      have hbefore : ¬ mark <+: c :: before := fun hp => hno <| by
        rw [cut?_append hcut, List.append_assoc, ← List.cons_append]
        exact hp.trans (List.prefix_append _ _)
      rw [cut?_cons_of_not_isPrefix hbefore, ih hcut, Option.map_none]

/-- A mark is cut off no later than where one is known to stand. -/
lemma suffix_of_cut? (u t : Text) (h : cut? mark (u ++ (mark ++ t)) = some (before, after)) :
    t <:+ after := by
  generalize hs : u ++ (mark ++ t) = s at h
  rw [cut?_eq_some_iff] at h
  induction h generalizing u with
  | here after =>
      -- what is cut off is at least as long as what is known
      have hknown : t <:+ mark ++ after := ⟨u ++ mark, by rw [List.append_assoc, hs]⟩
      refine List.suffix_of_suffix_length_le hknown (List.suffix_append mark after) ?_
      have hlen := congrArg List.length hs
      simp only [List.length_append] at hlen
      omega
  | later hno rest ih =>
      cases u with
      | nil => exact absurd ⟨t, hs⟩ hno
      | cons d u => exact ih u (List.cons.inj hs).2

/-- Where no mark begins in `s`, a text behind `s` is cut where it would be cut by itself. -/
theorem cut?_append_of_apart (s t : Text)
    (h : ∀ u v : Text, u ++ v = s → v ≠ [] → ¬ mark <+: v ++ t) :
    cut? mark (s ++ t) = (cut? mark t).map fun (before, after) => (s ++ before, after) := by
  induction s with
  | nil => cases hcut : cut? mark t <;> simp [hcut]
  | cons c rest ih =>
      have hno : ¬ mark <+: c :: (rest ++ t) := h [] (c :: rest) rfl (List.cons_ne_nil c rest)
      have hrest := ih fun u v huv => h (c :: u) v (by rw [List.cons_append, huv])
      rw [List.cons_append, cut?_cons_of_not_isPrefix hno, hrest]
      cases cut? mark t <;> rfl

/-- A mark of one character divides a text at its first occurrence. -/
lemma cut?_singleton_iff {c : Char} :
    cut? [c] s = some (before, after) ↔ s = before ++ c :: after ∧ c ∉ before := by
  constructor
  · intro h
    refine ⟨by rw [cut?_append h]; simp, fun hmem => ?_⟩
    obtain ⟨u, v, rfl⟩ := List.append_of_mem hmem
    exact cut?_eq_none_iff.1 (cut?_before h (List.cons_ne_nil c [])) ⟨u, v, by simp⟩
  · rintro ⟨rfl, hc⟩
    have happ : before ++ c :: after = before ++ ([c] ++ after) := rfl
    rw [happ, cut?_append_of_apart, cut?_mark_append]
    · simp
    · rintro u v rfl hv ⟨w, hw⟩
      obtain ⟨d, v, rfl⟩ := List.exists_cons_of_ne_nil hv
      obtain ⟨rfl, -⟩ := List.cons.inj hw
      exact hc (by simp)

end DynamicSql.Text
