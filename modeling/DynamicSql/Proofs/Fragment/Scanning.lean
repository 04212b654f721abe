import DynamicSql.Proofs.Delimited.Escaping
import DynamicSql.Proofs.Fragment.Division

/-!
# Scans of joined fragments

A scan of a text goes through its tokens in order. If no token is left open in a fragment, those of
the text that it makes with another are those of both, so a scan of the whole is a scan of the
first, the seam, and a scan of the second with what the handler has become (`scan_append`).
-/

namespace DynamicSql

namespace Delimiters

variable {σ ε : Type} {handler : σ → Text → Except ε (Text × σ)} {state final : σ}

/-- Contents in a row are handled part by part. -/
lemma handled_append (state : σ) (xs ys : List Text) :
    handled handler state (xs ++ ys) =
      (handled handler state xs).bind fun (replacements, next) =>
        (handled handler next ys).map fun (others, final) => (replacements ++ others, final) := by
  induction xs generalizing state with
  | nil =>
      simp only [List.nil_append, handled, Except.bind]
      rcases handled handler state ys with e | ⟨others, final⟩ <;> rfl
  | cons x xs ih =>
      rw [List.cons_append, handled, handled]
      rcases handler state x with e | ⟨replacement, next⟩
      · rfl
      · simp only [Except.bind, ih]
        rcases handled handler next xs with e | ⟨replacements, final⟩
        · rfl
        · simp only [Except.map]
          rcases handled handler final ys with e | ⟨others, last⟩ <;> rfl

/-- Every content that is handled has one replacement. -/
lemma length_of_handled {xs replacements : List Text}
    (h : handled handler state xs = .ok (replacements, final)) :
    replacements.length = xs.length := by
  induction xs generalizing state replacements with
  | nil =>
      obtain ⟨rfl, -⟩ := Prod.mk.inj (Except.ok.inj h)
      rfl
  | cons x xs ih =>
      rw [handled, bind_eq_ok_iff] at h
      obtain ⟨⟨replacement, next⟩, -, h⟩ := h
      obtain ⟨⟨others, last⟩, hothers, heq⟩ := map_eq_ok_iff.1 h
      obtain ⟨rfl, rfl⟩ := Prod.mk.inj heq
      rw [List.length_cons, List.length_cons, ih hothers]

end Delimiters

namespace Fragment

open Delimiters

section scans

variable {d : Delimiters} {a : Text} {σ ε : Type} (hd : KeptApart d) (ha : d.Terminated a)

include hd ha

/-- What replaces the tokens of two joined fragments is divided between them. -/
lemma fill_division_append {xs : List Text} (hlen : xs.length = (d.tokens a).length) (b : Text)
    (ys : List Text) :
    (d.division (append a b)).fill (xs ++ ys) =
      (d.division a).fill xs ++ seam a b ++ (d.division b).fill ys := by
  rw [← contents_division] at hlen
  rw [division_append hd ha, Division.fill_append _ _ hlen, Division.fill_literal_append,
    ← List.append_assoc]

/-- Two joined fragments are scanned one after the other. -/
lemma scanWith_append (handler : σ → Text → Except ε (Text × σ)) (state : σ) (b : Text) :
    d.scanWith handler state (append a b) =
      (d.scanWith handler state a).bind fun (text, next) =>
        (d.scanWith handler next b).map fun (other, final) =>
          (text ++ seam a b ++ other, final) := by
  simp only [scanWith_eq]
  rw [tokens_append hd ha, handled_append]
  rcases hfirst : handled handler state (d.tokens a) with e | ⟨xs, next⟩
  · rfl
  · simp only [Except.bind, Except.map]
    rcases handled handler next (d.tokens b) with e | ⟨ys, final⟩
    · rfl
    · simp only [fill_division_append hd ha (length_of_handled hfirst)]

/-- Two joined fragments are replaced one after the other. -/
lemma scan_append_of_keptApart (replace : Text → Except ε Text) (b : Text) :
    d.scan replace (append a b) =
      (d.scan replace a).bind fun text =>
        (d.scan replace b).map fun other => text ++ seam a b ++ other := by
  simp only [scan_eq]
  rw [tokens_append hd ha, List.mapM_append]
  rcases hfirst : (d.tokens a).mapM replace with e | xs
  · rfl
  · simp only [bind, Except.bind, pure, Except.pure, Except.map]
    rcases (d.tokens b).mapM replace with e | ys
    · rfl
    · simp only [fill_division_append hd ha (mapM_eq_ok_iff.1 hfirst).length_eq.symm]

end scans

/-- **Joining fuses nothing.** Let a text leave no token open, of substitutions or of placeholders,
and let a fragment be joined to it. The tokens of the result are those of the text and then those of
the fragment. A scan, with any handler, gives what it makes of the text, the seam, which is empty or
one space, and what it makes of the fragment; the first error ends it. If the fragment leaves no
token open either, neither does the result. -/
theorem scan_append {d : Delimiters} (hd : d = substitution ∨ d = placeholder) {a : Text}
    (ha : d.Terminated a) (b : Text) :
    d.tokens (append a b) = d.tokens a ++ d.tokens b ∧
    append a b = a ++ seam a b ++ b ∧ (seam a b = [] ∨ seam a b = [' ']) ∧
    (∀ (σ ε : Type) (handler : σ → Text → Except ε (Text × σ)) (state : σ),
      d.scanWith handler state (append a b) =
        (d.scanWith handler state a).bind fun (text, next) =>
          (d.scanWith handler next b).map fun (other, final) =>
            (text ++ seam a b ++ other, final)) ∧
    (∀ (ε : Type) (replace : Text → Except ε Text),
      d.scan replace (append a b) =
        (d.scan replace a).bind fun text =>
          (d.scan replace b).map fun other => text ++ seam a b ++ other) ∧
    (d.Terminated b → d.Terminated (append a b)) := by
  have hkept : KeptApart d := by
    rcases hd with rfl | rfl
    · exact keptApart_substitution
    · exact keptApart_placeholder
  exact ⟨tokens_append hkept ha b, rfl, seam_eq_nil_or a b,
    fun _ _ handler state => scanWith_append hkept ha handler state b,
    fun _ replace => scan_append_of_keptApart hkept ha replace b, terminated_append hkept ha⟩

/-- A backslash at the end of the text would escape the opening behind it. -/
theorem scan_append_backslash :
    let a : Text := "#\x7bx\x7d \\#\x7b\\".toList
    let b : Text := "#\x7by\x7d#\x7b".toList
    let number (n : Nat) (content : Text) : Except Text (Text × Nat) :=
      .ok (content ++ Text.ofNat n, n + 1)
    placeholder.Terminated a ∧ placeholder.tokens (append a b) = ["x".toList, "y".toList] ∧
      placeholder.scanWith number 0 (append a b) = .ok ("x0 #\x7b\\ y1#\x7b".toList, 2) := by
  intro a b number
  have hfirst : Text.cut? placeholder.opening a = some ([], "x\x7d \\#\x7b\\".toList) := rfl
  have hsecond : Text.cut? placeholder.opening " \\#\x7b\\".toList =
      some (" \\".toList, "\\".toList) := rfl
  have ha : placeholder.Terminated a :=
    .token hfirst rfl (content?_of_unescaped rfl rfl) (.escaped hsecond rfl (.plain rfl))
  obtain ⟨htokens, -, -, hscan, -, -⟩ := scan_append (.inr rfl) ha b
  refine ⟨ha, ?_, ?_⟩
  · rw [htokens]
    decide +kernel
  · rw [hscan]
    decide +kernel

end Fragment

end DynamicSql
