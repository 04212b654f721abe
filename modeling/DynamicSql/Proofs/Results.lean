import Mathlib.Data.List.Forall2
import Mathlib.Tactic.Lemma

/-!
# Lists of results

A list is computed element by element, and the first error ends the computation. It succeeds
exactly if every element does (`mapM_eq_ok_iff`, `exists_mapM_eq_ok_iff`), and otherwise its error
is that of the first element at fault (`mapM_eq_error_iff`). Lists of lists may be computed in a
row (`mapM_flatMap`).

Two computations are compared by `ResultRel`: they fail with the same error, or have related
results.
-/

namespace DynamicSql

variable {α β γ ε : Type} {f : α → Except ε β}

/-! ## One after the other -/

/-- What is computed from a result succeeds if both parts do. -/
lemma bind_eq_ok_iff {r : Except ε α} {k : α → Except ε β} {b : β} :
    r.bind k = .ok b ↔ ∃ a, r = .ok a ∧ k a = .ok b := by
  rcases r with e | a <;> simp [Except.bind]

/-- A result that is changed is one that there was. -/
lemma map_eq_ok_iff {r : Except ε α} {k : α → β} {b : β} :
    r.map k = .ok b ↔ ∃ a, r = .ok a ∧ k a = b := by
  rcases r with e | a <;> simp [Except.map]

/-- What is computed from a result fails if one of the two parts does. -/
lemma bind_eq_error_iff {r : Except ε α} {k : α → Except ε β} {e : ε} :
    r.bind k = .error e ↔ r = .error e ∨ ∃ a, r = .ok a ∧ k a = .error e := by
  rcases r with e' | a <;> simp [Except.bind]

/-- A result that is changed fails as before. -/
lemma map_eq_error_iff {r : Except ε α} {k : α → β} {e : ε} :
    r.map k = .error e ↔ r = .error e := by
  rcases r with e' | a <;> simp [Except.map]

/-! ## Two computations -/

/-- Two results that are the same error, or that are related. -/
inductive ResultRel (R : α → β → Prop) : Except ε α → Except ε β → Prop where
  /-- Both are the same error. -/
  | error (e : ε) : ResultRel R (.error e) (.error e)
  /-- Both are results, and these are related. -/
  | ok {a : α} {b : β} (h : R a b) : ResultRel R (.ok a) (.ok b)

namespace ResultRel

variable {α' β' : Type} {R : α → α' → Prop} {S : β → β' → Prop} {r : Except ε α} {r' : Except ε α'}

/-- Related results lead on to related results. -/
lemma bind {k : α → Except ε β} {k' : α' → Except ε β'} (h : ResultRel R r r')
    (hk : ∀ a a', R a a' → ResultRel S (k a) (k' a')) : ResultRel S (r.bind k) (r'.bind k') := by
  cases h with
  | error e => exact .error e
  | ok ha => exact hk _ _ ha

/-- Related results are changed alike. -/
lemma map {k : α → β} {k' : α' → β'} (h : ResultRel R r r')
    (hk : ∀ a a', R a a' → S (k a) (k' a')) : ResultRel S (r.map k) (r'.map k') := by
  cases h with
  | error e => exact .error e
  | ok ha => exact .ok (hk _ _ ha)

end ResultRel

/-! ## Lists -/

/-- The results of a list, if the first element has one. -/
lemma mapM_cons_of_ok {x : α} {y : β} (h : f x = .ok y) (xs : List α) :
    (x :: xs).mapM f = (xs.mapM f).map (y :: ·) := by
  rw [List.mapM_cons, h]
  cases xs.mapM f <;> rfl

/-- The error of the first element is the error of the list. -/
lemma mapM_cons_of_error {x : α} {e : ε} (h : f x = .error e) (xs : List α) :
    (x :: xs).mapM f = .error e := by
  rw [List.mapM_cons, h]
  rfl

/-- **The results of a list** are those of its elements, in order. -/
theorem mapM_eq_ok_iff {xs : List α} {ys : List β} :
    xs.mapM f = .ok ys ↔ List.Forall₂ (fun x y => f x = .ok y) xs ys := by
  induction xs generalizing ys with
  | nil => cases ys <;> simp [pure, Except.pure]
  | cons x xs ih =>
      rcases hx : f x with e | y
      · rw [mapM_cons_of_error hx]
        simp [List.forall₂_cons_left_iff, hx]
      · rw [mapM_cons_of_ok hx, List.forall₂_cons_left_iff]
        rcases hxs : xs.mapM f with e | zs
        · simp only [Except.map, hx, ← ih, hxs, reduceCtorEq, false_and, and_false, exists_false]
        · simp only [Except.map, hx, ← ih, hxs, Except.ok.injEq]
          constructor
          · rintro rfl
            exact ⟨y, zs, rfl, rfl, rfl⟩
          · rintro ⟨_, _, rfl, rfl, rfl⟩
            rfl

/-- A list has results if and only if each of its elements has one. -/
theorem exists_mapM_eq_ok_iff {xs : List α} :
    (∃ ys, xs.mapM f = .ok ys) ↔ ∀ x ∈ xs, ∃ y, f x = .ok y := by
  induction xs with
  | nil => simp [pure, Except.pure]
  | cons x xs ih =>
      rw [List.forall_mem_cons, ← ih]
      rcases hx : f x with e | y
      · simp [mapM_cons_of_error hx]
      · rw [mapM_cons_of_ok hx]
        rcases xs.mapM f with e | zs <;> simp [Except.map]

/-- **The error of a list** is that of its first element at fault. -/
theorem mapM_eq_error_iff {xs : List α} {e : ε} :
    xs.mapM f = .error e ↔ ∃ before x after, xs = before ++ x :: after ∧
      (∀ x' ∈ before, ∃ y, f x' = .ok y) ∧ f x = .error e := by
  induction xs with
  | nil => simp [pure, Except.pure]
  | cons x xs ih =>
      rcases hx : f x with e' | y
      · rw [mapM_cons_of_error hx]
        constructor
        · intro h
          exact ⟨[], x, xs, rfl, by simp, hx.trans (by rw [Except.error.inj h])⟩
        · rintro ⟨_ | ⟨b, before⟩, x', after, heq, hbefore, hx'⟩
          · obtain ⟨rfl, rfl⟩ := List.cons.inj heq
            rw [hx] at hx'
            rw [Except.error.inj hx']
          · obtain ⟨rfl, rfl⟩ := List.cons.inj heq
            obtain ⟨y, hy⟩ := hbefore x List.mem_cons_self
            rw [hx] at hy
            cases hy
      · rw [mapM_cons_of_ok hx, map_eq_error_iff, ih]
        constructor
        · rintro ⟨before, x', after, rfl, hbefore, hx'⟩
          exact ⟨x :: before, x', after, rfl, List.forall_mem_cons.2 ⟨⟨y, hx⟩, hbefore⟩, hx'⟩
        · rintro ⟨_ | ⟨b, before⟩, x', after, heq, hbefore, hx'⟩
          · obtain ⟨rfl, rfl⟩ := List.cons.inj heq
            rw [hx] at hx'
            cases hx'
          · obtain ⟨rfl, rfl⟩ := List.cons.inj heq
            exact ⟨before, x', after, rfl, fun z hz => hbefore z (List.mem_cons_of_mem _ hz), hx'⟩

/-! ## Changing results and errors -/

/-- The results may be changed before or after they are collected. -/
lemma map_mapM (g : β → γ) (xs : List α) :
    (xs.mapM f).map (List.map g) = xs.mapM fun x => (f x).map g := by
  induction xs with
  | nil => rfl
  | cons x xs ih =>
      rcases hx : f x with e | y
      · rw [mapM_cons_of_error hx, mapM_cons_of_error (by rw [hx]; rfl)]
        rfl
      · rw [mapM_cons_of_ok hx, mapM_cons_of_ok (by rw [hx]; rfl), ← ih]
        rcases xs.mapM f with e | ys <;> rfl

/-- Errors may be changed before or after one ends the computation. -/
lemma mapM_mapError {ε' : Type} (g : ε → ε') (xs : List α) :
    (xs.mapM fun x => (f x).mapError g) = (xs.mapM f).mapError g := by
  induction xs with
  | nil => rfl
  | cons x xs ih =>
      rcases hx : f x with e | y
      · rw [mapM_cons_of_error hx, mapM_cons_of_error (by rw [hx]; rfl)]
        rfl
      · rw [mapM_cons_of_ok hx, mapM_cons_of_ok (by rw [hx]; rfl), ih]
        rcases xs.mapM f with e | ys <;> rfl

/-- Only what is computed for the elements matters. -/
lemma mapM_congr {g : α → Except ε β} {xs : List α} (h : ∀ x ∈ xs, f x = g x) :
    xs.mapM f = xs.mapM g := by
  induction xs with
  | nil => rfl
  | cons x xs ih =>
      rw [List.forall_mem_cons] at h
      rw [List.mapM_cons, List.mapM_cons, h.1, ih h.2]

/-- The results of lists in a row are those of the lists, one after the other. -/
lemma mapM_flatMap (g : γ → List α) (xs : List γ) :
    (xs.flatMap g).mapM f = (xs.mapM fun x => (g x).mapM f).map List.flatten := by
  induction xs with
  | nil => rfl
  | cons x xs ih =>
      rw [List.flatMap_cons, List.mapM_append, ih]
      rcases hx : (g x).mapM f with e | ys
      · rw [mapM_cons_of_error (f := fun x => (g x).mapM f) hx]
        rfl
      · rw [mapM_cons_of_ok (f := fun x => (g x).mapM f) hx]
        rcases xs.mapM fun x => (g x).mapM f with e | yss <;> rfl

end DynamicSql
