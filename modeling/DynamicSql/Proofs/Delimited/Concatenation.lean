import DynamicSql.Proofs.Delimited.Division
import DynamicSql.Proofs.Text.Cut

/-!
# Divisions of concatenated texts

A text is divided from left to right, and only its end can be read differently when something is
written behind it: an opening may begin at the end of one text and go on in the next, a backslash
at the end may escape an opening behind it, and a token that is not closed may be closed later.
Where none of this happens, the division of the whole is the concatenation of the divisions
(`division_append`).

* `Terminated`: no token is left open at the end of the text.
* `Apart`: no opening and no escape reaches from one text into the other.
-/

namespace DynamicSql.Delimiters

/-!
## One step of a division

The cases of the definitions keep the equations that their termination needs. Here these are gone,
so that the case can be rewritten.
-/

section steps

variable {d : Delimiters} {s before rest piece kept content after : Text}

/-- What reading a content comes to at the first closing. -/
lemma content?_eq (d : Delimiters) (s : Text) :
    d.content? s =
      match Text.cut? d.closing s with
      | none => none
      | some (piece, rest) =>
        match piece.unescaped? with
        | none => some (piece, rest)
        | some kept =>
          (d.content? rest).map fun (more, after) => (kept ++ d.closing ++ more, after) := by
  rw [content?]
  rcases Text.cut? d.closing s with _ | ⟨piece, rest⟩
  · rfl
  · dsimp only
    rcases piece.unescaped? with _ | kept <;> rfl

/-- What a division comes to at the first opening. -/
lemma segments_eq (d : Delimiters) (s : Text) :
    d.segments s =
      match Text.cut? d.opening s with
      | none => [.literal s]
      | some (before, rest) =>
        match before.unescaped? with
        | some kept => .literal (kept ++ d.opening) :: d.segments rest
        | none =>
          match d.content? rest with
          | none => [.literal s]
          | some (content, after) => .literal before :: .token content :: d.segments after := by
  rw [segments]
  rcases Text.cut? d.opening s with _ | ⟨before, rest⟩
  · rfl
  · dsimp only
    rcases before.unescaped? with _ | kept
    · dsimp only
      rcases d.content? rest with _ | ⟨content, after⟩ <;> rfl
    · rfl

/-- The content of a token whose closing is not escaped. -/
lemma content?_of_unescaped (hcut : Text.cut? d.closing s = some (piece, rest))
    (hesc : piece.unescaped? = none) : d.content? s = some (piece, rest) := by
  simp only [content?_eq d s, hcut, hesc]

/-- The content of a token with an escaped closing goes on behind it. -/
lemma content?_of_escaped (hcut : Text.cut? d.closing s = some (piece, rest))
    (hesc : piece.unescaped? = some kept) :
    d.content? s =
      (d.content? rest).map fun (more, after) => (kept ++ d.closing ++ more, after) := by
  simp only [content?_eq d s, hcut, hesc]

/-- A text without an opening is literal. -/
lemma segments_of_none (hcut : Text.cut? d.opening s = none) : d.segments s = [.literal s] := by
  rw [segments_eq, hcut]

/-- An escaped opening is literal. -/
lemma segments_of_escaped (hcut : Text.cut? d.opening s = some (before, rest))
    (hesc : before.unescaped? = some kept) :
    d.segments s = .literal (kept ++ d.opening) :: d.segments rest := by
  simp only [segments_eq d s, hcut, hesc]

/-- An opening that is not escaped begins a token if the token ends. -/
lemma segments_of_token (hcut : Text.cut? d.opening s = some (before, rest))
    (hesc : before.unescaped? = none) (hcontent : d.content? rest = some (content, after)) :
    d.segments s = .literal before :: .token content :: d.segments after := by
  simp only [segments_eq d s, hcut, hesc, hcontent]

/-- A token that does not end is literal, with everything behind it. -/
lemma segments_of_open (hcut : Text.cut? d.opening s = some (before, rest))
    (hesc : before.unescaped? = none) (hcontent : d.content? rest = none) :
    d.segments s = [.literal s] := by
  simp only [segments_eq d s, hcut, hesc, hcontent]

/-- The division of a text without an opening. -/
lemma division_of_none (hcut : Text.cut? d.opening s = none) :
    d.division s = Division.literal s := by
  rw [division, segments_of_none hcut]
  exact Division.append_literal_nil _

/-- The division of a text that begins with a token. -/
lemma division_of_token (hcut : Text.cut? d.opening s = some (before, rest))
    (hesc : before.unescaped? = none) (hcontent : d.content? rest = some (content, after)) :
    d.division s = Division.literal before ++ (Division.token content ++ d.division after) := by
  rw [division, segments_of_token hcut hesc hcontent]
  rfl

end steps

/-! ## Texts that leave no token open -/

/-- A text in which every opening that is not escaped begins a token that ends. -/
inductive Terminated (d : Delimiters) : Text → Prop where
  /-- There is no opening. -/
  | plain {s : Text} (hcut : Text.cut? d.opening s = none) : Terminated d s
  /-- The first opening is escaped. -/
  | escaped {s before rest kept : Text} (hcut : Text.cut? d.opening s = some (before, rest))
      (hesc : before.unescaped? = some kept) (hrest : Terminated d rest) : Terminated d s
  /-- The first opening begins a token, which ends. -/
  | token {s before rest content after : Text}
      (hcut : Text.cut? d.opening s = some (before, rest)) (hesc : before.unescaped? = none)
      (hcontent : d.content? rest = some (content, after)) (hafter : Terminated d after) :
      Terminated d s

/-- What follows a content is the end of the text that the content leads. -/
lemma exists_append_of_content? {d : Delimiters} {s content after : Text}
    (h : d.content? s = some (content, after)) : ∃ u, s = u ++ after := by
  fun_induction content? d s generalizing content with
  | case1 => cases h
  | case2 s piece rest hcut hesc =>
      obtain ⟨rfl, rfl⟩ := Prod.mk.inj (Option.some.inj h)
      exact ⟨piece ++ d.closing, Text.cut?_append hcut⟩
  | case3 s piece rest hcut kept hesc ih =>
      obtain ⟨⟨more, after'⟩, hmore, heq⟩ := Option.map_eq_some_iff.1 h
      obtain ⟨-, rfl⟩ := Prod.mk.inj heq
      obtain ⟨u, hu⟩ := ih hmore
      refine ⟨piece ++ d.closing ++ u, ?_⟩
      rw [Text.cut?_append hcut, hu, List.append_assoc _ u]

/-- What is written behind a token does not change its content. -/
lemma content?_append {d : Delimiters} {s content after : Text}
    (h : d.content? s = some (content, after)) (t : Text) :
    d.content? (s ++ t) = some (content, after ++ t) := by
  fun_induction content? d s generalizing content with
  | case1 => cases h
  | case2 s piece rest hcut hesc =>
      obtain ⟨rfl, rfl⟩ := Prod.mk.inj (Option.some.inj h)
      exact content?_of_unescaped (Text.cut?_append_of_cut? hcut t) hesc
  | case3 s piece rest hcut kept hesc ih =>
      obtain ⟨⟨more, after'⟩, hmore, heq⟩ := Option.map_eq_some_iff.1 h
      obtain ⟨rfl, rfl⟩ := Prod.mk.inj heq
      rw [content?_of_escaped (Text.cut?_append_of_cut? hcut t) hesc, ih hmore]
      rfl

/-! ## Delimiters with braces -/

/-- The delimiters of tokens that a mark and a brace open and a brace closes: substitutions are
marked by a dollar sign, placeholders by a number sign. -/
def braced (mark : Char) : Delimiters := ⟨[mark, '{'], ['}'], List.cons_ne_nil _ _⟩

/-- Whether neither an opening nor the escape of one reaches from one text into the next. -/
def Apart (mark : Char) (a b : Text) : Prop :=
  ∀ x ∈ a.getLast?, ∀ y ∈ b.head?, ¬(x = mark ∧ y = '{') ∧ ¬(x = '\\' ∧ y = mark)

variable {mark : Char} {a b : Text}

/-- The end of a text that is apart from another is apart from it. -/
lemma Apart.of_append {u : Text} (h : Apart mark (u ++ a) b) : Apart mark a b := by
  intro x hx y hy
  refine h x ?_ y hy
  rw [Option.mem_def] at hx ⊢
  rw [List.getLast?_append, hx]
  rfl

/-- A text that is apart from another keeps it from being read as anything but what it is. -/
lemma Apart.not_prefix (h : Apart mark a b) (hcut : Text.cut? (braced mark).opening a = none)
    (u v : Text) (huv : u ++ v = a) (hv : v ≠ []) : ¬ (braced mark).opening <+: v ++ b := by
  rintro ⟨t, ht⟩
  match v, hv with
  | [x], _ =>
      obtain ⟨rfl, rfl⟩ : mark = x ∧ '{' :: t = b := by simpa [braced] using ht
      exact (h mark (by simp [← huv]) '{' rfl).1 ⟨rfl, rfl⟩
  | x :: y :: v, _ =>
      obtain ⟨rfl, hb⟩ := List.cons.inj ht
      obtain ⟨rfl, -⟩ := List.cons.inj hb
      exact Text.cut?_eq_none_iff.1 hcut ⟨u, v, by rw [← huv]; simp [braced]⟩

/-- A backslash at the end of a text does not escape what is apart from it. -/
lemma Apart.unescaped? {before rest : Text} (h : Apart mark a b)
    (hcut : Text.cut? (braced mark).opening b = some (before, rest)) :
    (a ++ before).unescaped? = before.unescaped?.map (a ++ ·) := by
  rcases List.eq_nil_or_concat before with rfl | ⟨before, c, rfl⟩
  · have hb : b.head? = some mark := by rw [Text.cut?_append hcut]; rfl
    have hlast : a.getLast? ≠ some '\\' := fun hx => (h _ hx _ hb).2 ⟨rfl, rfl⟩
    simp [Text.unescaped?, hlast]
  · unfold Text.unescaped?
    by_cases hc : c = '\\' <;> simp [hc]

/-- **The division of two texts** that are apart, of which the first leaves no token open, is the
division of the first and then that of the second. -/
theorem division_append (ha : (braced mark).Terminated a) (hab : Apart mark a b) :
    (braced mark).division (a ++ b) = (braced mark).division a ++ (braced mark).division b := by
  unfold division
  induction ha with
  | @plain a hcut =>
      have hcutb := Text.cut?_append_of_apart a b (hab.not_prefix hcut)
      rw [segments_of_none hcut]
      rcases hb : Text.cut? (braced mark).opening b with _ | ⟨before, rest⟩
      · rw [hb] at hcutb
        rw [segments_of_none hcutb, segments_of_none hb]
        simp [Division.ofSegments, Division.literal]
      · rw [hb] at hcutb
        have hesc := hab.unescaped? hb
        rcases hbefore : before.unescaped? with _ | kept
        · rw [hbefore] at hesc
          rcases hrest : (braced mark).content? rest with _ | ⟨content, after⟩
          · rw [segments_of_open hcutb hesc hrest, segments_of_open hb hbefore hrest]
            simp [Division.ofSegments, Division.literal]
          · rw [segments_of_token hcutb hesc hrest, segments_of_token hb hbefore hrest]
            simp [Division.ofSegments, Division.literal]
        · rw [hbefore] at hesc
          rw [segments_of_escaped hcutb hesc, segments_of_escaped hb hbefore]
          simp [Division.ofSegments, Division.literal]
  | escaped hcut hesc _ ih =>
      rw [Text.cut?_append hcut] at hab
      rw [segments_of_escaped hcut hesc,
        segments_of_escaped (Text.cut?_append_of_cut? hcut b) hesc, Division.ofSegments,
        Division.ofSegments, ih hab.of_append, Division.append_assoc]
  | token hcut hesc hcontent _ ih =>
      obtain ⟨u, hu⟩ := exists_append_of_content? hcontent
      rw [Text.cut?_append hcut, hu, ← List.append_assoc] at hab
      rw [segments_of_token hcut hesc hcontent,
        segments_of_token (Text.cut?_append_of_cut? hcut b) hesc (content?_append hcontent b),
        Division.ofSegments, Division.ofSegments, Division.ofSegments, Division.ofSegments,
        ih hab.of_append, Division.append_assoc, Division.append_assoc]

/-- The tokens of a text do not change when something without an opening is written before it. -/
lemma tokens_append_of_none (hcut : Text.cut? (braced mark).opening a = none)
    (hab : Apart mark a b) : (braced mark).tokens (a ++ b) = (braced mark).tokens b := by
  rw [← contents_division, division_append (.plain hcut) hab, division_of_none hcut,
    Division.contents_append, Division.contents_literal, List.nil_append, contents_division]

/-- Two texts that leave no token open leave none open together. -/
theorem Terminated.append (ha : (braced mark).Terminated a) (hab : Apart mark a b)
    (hb : (braced mark).Terminated b) : (braced mark).Terminated (a ++ b) := by
  induction ha with
  | @plain a hcut =>
      have hcutb := Text.cut?_append_of_apart a b (hab.not_prefix hcut)
      cases hb with
      | plain hcut' => exact .plain (by rw [hcutb, hcut']; rfl)
      | escaped hcut' hesc hrest =>
          rw [hcut'] at hcutb
          exact .escaped hcutb (by rw [hab.unescaped? hcut', hesc]; rfl) hrest
      | token hcut' hesc hcontent hafter =>
          rw [hcut'] at hcutb
          exact .token hcutb (by rw [hab.unescaped? hcut', hesc]; rfl) hcontent hafter
  | escaped hcut hesc _ ih =>
      rw [Text.cut?_append hcut] at hab
      exact .escaped (Text.cut?_append_of_cut? hcut b) hesc (ih hab.of_append)
  | token hcut hesc hcontent _ ih =>
      obtain ⟨u, hu⟩ := exists_append_of_content? hcontent
      rw [Text.cut?_append hcut, hu, ← List.append_assoc] at hab
      exact .token (Text.cut?_append_of_cut? hcut b) hesc (content?_append hcontent b)
        (ih hab.of_append)

end DynamicSql.Delimiters
