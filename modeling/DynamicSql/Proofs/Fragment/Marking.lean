import DynamicSql.Proofs.Assembly
import DynamicSql.Proofs.Fragment.Division
import DynamicSql.Proofs.Text.Span

/-!
# Markers in joined fragments

Joining looks at the ends of fragments only, and a marker has the same effect at an end as the
placeholder that it replaces. So the placeholders of joined fragments can be replaced in every
fragment by itself, with the numbers going on from one fragment to the next (`marked_join`).
-/

namespace DynamicSql

namespace Fragment

/-! ## The ends of a text -/

/-- Whether no space is put behind a character. -/
def gluesAfter (c : Char) : Bool := Text.isBlank c || c == '(' || c == ','

/-- Whether no space is put before a character. -/
def gluesBefore (c : Char) : Bool := Text.isBlank c || c == ')' || c == ','

/-- All that joining looks at: how the first and the last character of a text, if it has any, go
with their neighbours. -/
def ends (s : Text) : Option Bool × Option Bool :=
  (s.head?.map gluesBefore, s.getLast?.map gluesAfter)

/-- Each side of a seam may do without a space. -/
lemma glued_eq (last first : Char) : glued last first = (gluesAfter last || gluesBefore first) := by
  simp only [glued, gluesAfter, gluesBefore]
  cases Text.isBlank last <;> cases Text.isBlank first <;> cases last == '(' <;>
    cases last == ',' <;> rfl

/-- A seam is decided by the ends. -/
lemma seam_eq (a b : Text) :
    seam a b = ((ends a).2.bind fun last => (ends b).1.map fun first =>
      if last || first then [] else [' ']).getD [] := by
  unfold seam ends
  rcases a.getLast? with _ | last
  · rfl
  · rcases b.head? with _ | first
    · rfl
    · simp only [glued_eq, Option.map_some, Option.bind_some, Option.getD_some]

/-- Texts with the same ends have the same seams. -/
lemma seam_congr {a a' b b' : Text} (ha : ends a = ends a') (hb : ends b = ends b') :
    seam a b = seam a' b' := by
  rw [seam_eq, seam_eq, ha, hb]

/-- The ends of a concatenation. -/
lemma ends_concat (a b : Text) :
    ends (a ++ b) = ((ends a).1.or (ends b).1, (ends b).2.or (ends a).2) := by
  simp only [ends, List.head?_append, List.getLast?_append]
  rcases a.head? with _ | _ <;> rcases b.getLast? with _ | _ <;> rfl

/-- Texts with the same ends make concatenations with the same ends. -/
lemma ends_concat_congr {a a' b b' : Text} (ha : ends a = ends a') (hb : ends b = ends b') :
    ends (a ++ b) = ends (a' ++ b') := by
  rw [ends_concat, ends_concat, ha, hb]

/-- Texts with the same ends are joined to texts with the same ends. -/
lemma ends_append_congr {a a' b b' : Text} (ha : ends a = ends a') (hb : ends b = ends b') :
    ends (append a b) = ends (append a' b') := by
  rw [append, append, seam_congr ha hb]
  exact ends_concat_congr (ends_concat_congr ha rfl) hb

/-- The ends of a text that needs a space on both sides. -/
abbrev spaced : Option Bool × Option Bool := (some false, some false)

/-- The ends of a division do not depend on what replaces its tokens, if every replacement needs a
space on both sides. -/
lemma ends_fill (d : Division) {xs ys : List Text} (hx : xs.length = d.contents.length)
    (hy : ys.length = d.contents.length) (hxs : ∀ x ∈ xs, ends x = spaced)
    (hys : ∀ y ∈ ys, ends y = spaced) : ends (d.fill xs) = ends (d.fill ys) := by
  obtain ⟨lead, pieces⟩ := d
  induction pieces generalizing lead xs ys with
  | nil => rw [Division.fill_mk_nil, Division.fill_mk_nil]
  | cons piece rest ih =>
      obtain ⟨content, behind⟩ := piece
      rw [Division.contents_mk_cons] at hx hy
      rcases xs with _ | ⟨x, xs⟩
      · cases hx
      · rcases ys with _ | ⟨y, ys⟩
        · cases hy
        · rw [List.forall_mem_cons] at hxs hys
          rw [Division.fill_mk_cons, Division.fill_mk_cons]
          have hrest := ih hxs.2 hys.2 behind (Nat.succ.inj hx) (Nat.succ.inj hy)
          exact ends_concat_congr (ends_concat_congr rfl (hxs.1.trans hys.1.symm)) hrest

/-- A placeholder needs a space on both sides. -/
lemma ends_wrap (content : Text) : ends (Delimiters.placeholder.wrap content) = spaced := by
  rw [Delimiters.wrap, ends_concat, ends_concat]
  rfl

/-- A digit needs a space behind it. -/
lemma gluesAfter_of_isDigit {c : Char} (h : c.isDigit = true) : gluesAfter c = false := by
  have hblank := Text.isBlank_of_continuesName (Text.continuesName_of_isDigit h)
  have hopen : (c == '(') = false := beq_false_of_ne (by rintro rfl; exact absurd h (by decide))
  have hcomma : (c == ',') = false := beq_false_of_ne (by rintro rfl; exact absurd h (by decide))
  rw [gluesAfter, hblank, hopen, hcomma]
  rfl

/-- The ends of a number with something before it. -/
lemma ends_append_ofNat {before : Text} (h : before ≠ []) (n : Nat) :
    ends (before ++ Text.ofNat n) = ((ends before).1, some false) := by
  have hne : Text.ofNat n ≠ [] := Nat.toDigits_ne_nil
  have hdigit : ((Text.ofNat n).getLast hne).isDigit = true :=
    Text.isDigit_of_mem_ofNat (List.getLast_mem hne)
  have hlast : (ends (Text.ofNat n)).2 = some false := by
    rw [ends, List.getLast?_eq_getLast_of_ne_nil hne, Option.map_some, gluesAfter_of_isDigit hdigit]
  obtain ⟨c, before, rfl⟩ := List.exists_cons_of_ne_nil h
  rw [ends_concat, hlast]
  rfl

/-- A marker needs a space on both sides. -/
lemma ends_marker (style : MarkerStyle) (position : Nat) : ends (style.marker position) = spaced := by
  cases style with
  | question => rfl
  | dollar => exact ends_append_ofNat (List.cons_ne_nil '$' []) position
  | colon => exact ends_append_ofNat (List.cons_ne_nil ':' []) position
  | atP => exact ends_append_ofNat (List.cons_ne_nil '@' ['p']) position

end Fragment

/-! ## Replacing placeholders by markers -/

namespace MarkerStyle

open Delimiters

variable (style : MarkerStyle)

/-- The number of placeholders in a text. -/
def count (s : Text) : Nat := (placeholder.tokens s).length

/-- The text with markers for its placeholders, if `before` others stand before it. -/
def marked (before : Nat) (s : Text) : Text :=
  (placeholder.division s).fill (style.markers before (count s))

/-- Fragments with markers for their placeholders, which are numbered through. -/
def markedAll (before : Nat) : List Text → List Text
  | [] => []
  | f :: rest => style.marked before f :: markedAll (before + count f) rest

/-- Whether markers have the effect of the placeholders at the ends of a text. -/
def Steady (s : Text) : Prop := ∀ style before, Fragment.ends (marked style before s) =
  Fragment.ends s

/-- A text without an opening has nothing to be marked. -/
lemma count_of_none {s : Text} (h : Text.cut? placeholder.opening s = none) : count s = 0 := by
  rw [count, ← contents_division, division_of_none h]
  rfl

/-- A text without an opening stays as it is. -/
lemma marked_of_none {s : Text} (h : Text.cut? placeholder.opening s = none) (before : Nat) :
    style.marked before s = s := by
  rw [marked, division_of_none h]
  exact Division.fill_mk_nil s _

/-- Rewritten contents do not matter where there are markers. -/
lemma Steady.of_fill {s : Text} {contents : List Text}
    (hlen : contents.length = count s)
    (hs : s = (placeholder.division s).fill (contents.map placeholder.wrap)) : Steady s := by
  intro style before
  conv_rhs => rw [hs]
  rw [count, ← contents_division] at hlen
  refine Fragment.ends_fill _ ?_ (by rwa [List.length_map]) ?_ ?_
  · rw [length_markers, count, contents_division]
  · intro x hx
    obtain ⟨position, -, rfl⟩ := List.mem_map.1 hx
    exact Fragment.ends_marker style position
  · intro y hy
    obtain ⟨content, -, rfl⟩ := List.mem_map.1 hy
    exact Fragment.ends_wrap content

/-- Two joined fragments are marked one after the other. -/
lemma marked_append {a : Text} (ha : placeholder.Terminated a) (before : Nat) (b : Text) :
    style.marked before (Fragment.append a b) =
      style.marked before a ++ Fragment.seam a b ++ style.marked (before + count a) b := by
  have hlen : (style.markers before (placeholder.tokens a).length).length =
      (placeholder.division a).contents.length := by
    rw [length_markers, contents_division]
  rw [marked, count, Fragment.tokens_append Fragment.keptApart_placeholder ha, List.length_append,
    markers_add, Fragment.division_append Fragment.keptApart_placeholder ha,
    Division.fill_append _ _ hlen, Division.fill_literal_append, List.append_assoc]
  rfl

/-- **Joined fragments are marked fragment by fragment**, if none leaves a token open and markers
have the effect of placeholders at their ends. -/
theorem marked_join {fragments : List Text} (before : Nat)
    (h : ∀ f ∈ fragments, placeholder.Terminated f ∧ Steady f) :
    style.marked before (Fragment.join fragments) =
        Fragment.join (style.markedAll before fragments) ∧
      Fragment.ends (Fragment.join (style.markedAll before fragments)) =
        Fragment.ends (Fragment.join fragments) := by
  induction fragments generalizing before with
  | nil => exact ⟨style.marked_of_none rfl before, rfl⟩
  | cons f rest ih =>
      rw [List.forall_mem_cons] at h
      obtain ⟨hmarked, hends⟩ := ih (before + count f) h.2
      rw [markedAll, Fragment.join_cons, Fragment.join_cons]
      refine ⟨?_, Fragment.ends_append_congr (h.1.2 style before) hends⟩
      rw [marked_append style h.1.1, hmarked, Fragment.append,
        Fragment.seam_congr (h.1.2 style before) hends]

/-! ## Fragments in a row -/

/-- Fragments without placeholders stay as they are. -/
lemma markedAll_of_none {fragments : List Text}
    (h : ∀ f ∈ fragments, Text.cut? placeholder.opening f = none) (before : Nat) :
    style.markedAll before fragments = fragments := by
  induction fragments generalizing before with
  | nil => rfl
  | cons f rest ih =>
      rw [List.forall_mem_cons] at h
      rw [markedAll, marked_of_none style h.1, ih h.2]

/-- The numbers of the second of two rows begin where those of the first end. -/
lemma markedAll_append (before : Nat) (xs ys : List Text) :
    style.markedAll before (xs ++ ys) =
      style.markedAll before xs ++
        style.markedAll (before + (xs.flatMap placeholder.tokens).length) ys := by
  induction xs generalizing before with
  | nil => rfl
  | cons x xs ih =>
      rw [List.cons_append, markedAll, markedAll, ih, List.flatMap_cons, List.length_append,
        ← Nat.add_assoc, List.cons_append]
      rfl

/-- Fragments without an opening have no tokens. -/
lemma flatMap_tokens_of_none {fragments : List Text}
    (h : ∀ f ∈ fragments, Text.cut? placeholder.opening f = none) :
    fragments.flatMap placeholder.tokens = [] :=
  List.flatMap_eq_nil_iff.2 fun f hf => List.length_eq_zero_iff.1 (count_of_none (h f hf))

/-- Separators without placeholders do not count. -/
lemma markedAll_spread {separator : Option Text}
    (h : ∀ s ∈ separator, Text.cut? placeholder.opening s = none) (before : Nat)
    (fragments : List Text) :
    style.markedAll before (Fragment.spread separator fragments) =
      Fragment.spread separator (style.markedAll before fragments) := by
  induction fragments generalizing before with
  | nil => rfl
  | cons f rest ih =>
      have hseparator : ∀ s ∈ (if rest.isEmpty then [] else separator.toList),
          Text.cut? placeholder.opening s = none := by
        intro s hs
        split at hs
        · cases hs
        · exact h s (Option.mem_toList.1 hs)
      have hempty (n : Nat) : (style.markedAll n rest).isEmpty = rest.isEmpty := by
        cases rest <;> rfl
      rw [Fragment.spread_cons, markedAll, markedAll, Fragment.spread_cons, markedAll_append,
        markedAll_of_none style hseparator, flatMap_tokens_of_none hseparator, List.length_nil,
        Nat.add_zero, ih, hempty]

/-! ## Assembling -/

/-- An assembled text is the text with markers, and its values are those of its placeholders. -/
lemma map_assemble (b : Bindings) (sql : Text) :
    (BoundSql.assemble sql b style).map (fun r => (r.sql, r.parameters)) =
      ((placeholder.tokens sql).mapM fun t => (Placeholder.bound b t).map (·.2)).map
        fun values => (style.marked 0 sql, values) := by
  rw [BoundSql.assemble_eq, ← map_mapM]
  rcases h : (placeholder.tokens sql).mapM (Placeholder.bound b) with e | bound
  · rfl
  · have hlen := (mapM_eq_ok_iff.1 h).length_eq
    rw [marked, count, hlen]
    rfl

end MarkerStyle

end DynamicSql
