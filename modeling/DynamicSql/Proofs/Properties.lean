import DynamicSql.Proofs.Delimited.Replacing
import DynamicSql.Properties

/-!
# Tokens without an answer

A token that no property answers is put back as it was, delimiters included. A text without
backslashes is therefore left alone by a table that answers none of its tokens
(`unanswered_unchanged`), so that properties may be filled in from several tables, one after the
other. A backslash before an opening would be lost.

If the answers make no tokens with the text around them, the tokens without an answer are all that
is left, and filling in the same properties again changes nothing (`substitute_substitute`).
-/

namespace DynamicSql

/-- Only what replaces the tokens of a text matters. -/
lemma Delimiters.replaceAll_congr {d : Delimiters} {s : Text} {f g : Text → Text}
    (h : ∀ content ∈ d.tokens s, f content = g content) : d.replaceAll f s = d.replaceAll g s := by
  rw [replaceAll_eq, replaceAll_eq, List.map_congr_left h]

namespace Properties

variable {p : Properties} {content s : Text}

/-- A token names a default if tokens may, and the separator is in it. -/
lemma keyAndDefault?_eq_none_iff : p.keyAndDefault? content = none ↔
    ¬ (p.enablesDefault = true ∧ p.separator ≠ [] ∧ p.separator <:+: content) := by
  unfold keyAndDefault?
  split
  · next h => rw [Text.cut?_eq_none_iff, ← and_assoc, and_iff_right h]
  · next h => exact ⟨fun _ hdefault => h ⟨hdefault.1, hdefault.2.1⟩, fun _ => rfl⟩

/-- What it takes for a token to have no answer: it is no key, and names no default. -/
lemma answer?_eq_none_iff : p.answer? content = none ↔ p.get? content = none ∧
    ¬ (p.enablesDefault = true ∧ p.separator ≠ [] ∧ p.separator <:+: content) := by
  rw [← keyAndDefault?_eq_none_iff, answer?]
  rcases p.keyAndDefault? content with _ | ⟨key, fallback⟩
  · exact (and_iff_left rfl).symm
  · exact ⟨nofun, fun h => absurd h.2 nofun⟩

/-- A token without an answer is put back. -/
lemma resolve_of_answer? (h : p.answer? content = none) :
    p.resolve content = Delimiters.substitution.wrap content := by
  rw [resolve, h]
  rfl

/-- **What is not answered does not change.** Whatever the delimiters are, a scan that puts every
token of a text without backslashes back gives the text again. So the text comes out of a
substitution as it is if there is no table, and also if no token of it is a key of the table or
names a default. -/
theorem unanswered_unchanged :
    (∀ (d : Delimiters) (s : Text), '\\' ∉ s →
      d.replaceAll d.wrap s = s ∧
        ∀ ε : Type, d.scan (fun content => (.ok (d.wrap content) : Except ε Text)) s = .ok s) ∧
    (∀ s : Text, '\\' ∉ s → substituteNone s = s) ∧
    ∀ (p : Properties) (s : Text), '\\' ∉ s →
      (∀ content ∈ Delimiters.substitution.tokens s, p.get? content = none ∧
        ¬ (p.enablesDefault = true ∧ p.separator ≠ [] ∧ p.separator <:+: content)) →
      p.substitute s = s := by
  refine ⟨fun d s hescape => ?_, fun s hescape => ?_, fun p s hescape hunanswered => ?_⟩
  · have hsame := d.replaceAll_wrap hescape
    refine ⟨hsame, fun ε => ?_⟩
    rw [Delimiters.scan_ok, hsame]
  · exact Delimiters.substitution.replaceAll_wrap hescape
  · rw [substitute, Delimiters.replaceAll_congr fun content hcontent =>
      resolve_of_answer? (answer?_eq_none_iff.2 (hunanswered content hcontent))]
    exact Delimiters.substitution.replaceAll_wrap hescape

/-- Delimiters that overlap each other, and a table with defaults in which nothing is found. -/
theorem unanswered_unchanged_overlapping :
    let d : Delimiters := ⟨"aa".toList, "a".toList, by decide⟩
    let p : Properties := (Table.empty.insert enableDefaultKey "TRUE".toList).insert separatorKey
      "?:".toList
    let s : Text := "aaaaab $\x7ba:b$\x7bc\x7d $\x7b".toList
    '\\' ∉ s ∧ d.tokens s = ["".toList, "b $\x7b".toList] ∧ d.replaceAll d.wrap s = s ∧
      Delimiters.substitution.tokens s = ["a:b$\x7bc".toList] ∧ p.substitute s = s := by
  intro d p s
  have hescape : '\\' ∉ s := by decide
  have htokens : Delimiters.substitution.tokens s = ["a:b$\x7bc".toList] := by decide +kernel
  have hunanswered : ∀ content ∈ Delimiters.substitution.tokens s, p.get? content = none ∧
      ¬ (p.enablesDefault = true ∧ p.separator ≠ [] ∧ p.separator <:+: content) := by
    rw [htokens, List.forall_mem_singleton]
    decide +kernel
  obtain ⟨hscan, -, hsubstitute⟩ := unanswered_unchanged
  exact ⟨hescape, by decide +kernel, (hscan d s hescape).1, htokens,
    hsubstitute p s hescape hunanswered⟩

/-! ## Filling in twice -/

/-- Answers that make no tokens leave the tokens without an answer. -/
lemma settles_resolve {contents : List Text}
    (h : ∀ content ∈ contents, ∀ v, p.answer? content = some v → Delimiters.Inert '$' v) :
    Delimiters.Settles '$' contents (contents.map p.resolve)
      (contents.filter fun content => (p.answer? content).isNone) := by
  induction contents with
  | nil => exact .nil
  | cons content contents ih =>
      rw [List.forall_mem_cons] at h
      rw [List.map_cons, List.filter_cons]
      rcases hanswer : p.answer? content with _ | v
      · rw [resolve_of_answer? hanswer]
        exact .kept (ih h.2)
      · have hresolve : p.resolve content = v := by
          rw [resolve, hanswer]
          rfl
        rw [hresolve]
        exact .replaced (h.1 v hanswer) (ih h.2)

/-- **Properties are filled in once and for all** in a text without backslashes, if no answer is
empty or holds a dollar sign, an opening brace or a backslash. The literal text stays, and so do the
tokens without an answer, which are the tokens of the result. So filling in the properties again
changes nothing, and neither does it if there is no table. -/
theorem substitute_substitute :
    (∀ s : Text, '\\' ∉ s → substituteNone (substituteNone s) = substituteNone s) ∧
    ∀ (p : Properties) (s : Text), '\\' ∉ s →
      (∀ content ∈ Delimiters.substitution.tokens s, ∀ v, p.answer? content = some v →
        v ≠ [] ∧ '$' ∉ v ∧ '{' ∉ v ∧ '\\' ∉ v) →
      p.substitute s = (Delimiters.substitution.division s).fill
        ((Delimiters.substitution.tokens s).map fun content =>
          (p.answer? content).getD (Delimiters.substitution.wrap content)) ∧
      Delimiters.substitution.tokens (p.substitute s) =
        (Delimiters.substitution.tokens s).filter (fun content => (p.answer? content).isNone) ∧
      p.substitute (p.substitute s) = p.substitute s := by
  refine ⟨fun s hescape => ?_, fun p s hescape hanswers => ?_⟩
  · have hsame : substituteNone s = s := Delimiters.substitution.replaceAll_wrap hescape
    rw [hsame, hsame]
  · have hfill : p.substitute s = (Delimiters.substitution.division s).fill
        ((Delimiters.substitution.tokens s).map p.resolve) :=
      Delimiters.substitution.replaceAll_eq p.resolve s
    have hsettles := settles_resolve fun content hcontent v hv =>
      have ⟨hne, hmark, hbrace, hslash⟩ := hanswers content hcontent v hv
      ⟨hne, hmark, hbrace, hslash⟩
    have hplain : '\\' ∉ p.substitute s := by
      rw [hfill]
      exact Delimiters.not_mem_fill hescape hsettles (by decide)
    have htokens : Delimiters.substitution.tokens (p.substitute s) =
        (Delimiters.substitution.tokens s).filter fun content => (p.answer? content).isNone := by
      rw [hfill]
      exact Delimiters.tokens_fill hescape hsettles (by decide)
    refine ⟨hfill, htokens, ?_⟩
    -- the tokens that are left have no answer, so all of them are put back
    have hunanswered : ∀ content ∈ Delimiters.substitution.tokens (p.substitute s),
        p.resolve content = Delimiters.substitution.wrap content := by
      intro content hcontent
      rw [htokens, List.mem_filter, Option.isNone_iff_eq_none] at hcontent
      exact resolve_of_answer? hcontent.2
    calc p.substitute (p.substitute s)
        = Delimiters.substitution.replaceAll Delimiters.substitution.wrap (p.substitute s) :=
          Delimiters.replaceAll_congr hunanswered
      _ = p.substitute s := Delimiters.substitution.replaceAll_wrap hplain

/-- A dollar sign before a value, braces around it, a default, and a token that stays. -/
theorem substitute_substitute_braces :
    let p : Properties := (Table.empty.insert enableDefaultKey "true".toList).insert "a".toList
      "v\x7d".toList
    let s : Text := "$$\x7ba\x7d\x7bx\x7d $\x7bb:1\x7d$\x7bc\x7d$\x7b".toList
    '\\' ∉ s ∧ p.substitute s = "$v\x7d\x7bx\x7d 1$\x7bc\x7d$\x7b".toList ∧
      p.substitute (p.substitute s) = p.substitute s := by
  intro p s
  have hescape : '\\' ∉ s := by decide
  have htokens : Delimiters.substitution.tokens s = ["a".toList, "b:1".toList, "c".toList] := by
    decide +kernel
  have hanswers : ∀ content ∈ Delimiters.substitution.tokens s, ∀ v, p.answer? content = some v →
      v ≠ [] ∧ '$' ∉ v ∧ '{' ∉ v ∧ '\\' ∉ v := by
    have hall : ∀ content ∈ Delimiters.substitution.tokens s, ∀ v ∈ p.answer? content,
        v ≠ [] ∧ '$' ∉ v ∧ '{' ∉ v ∧ '\\' ∉ v := by
      rw [htokens]
      decide +kernel
    exact hall
  obtain ⟨-, hsubstitute⟩ := substitute_substitute
  exact ⟨hescape, by decide +kernel, (hsubstitute p s hescape hanswers).2.2⟩

end Properties

end DynamicSql
