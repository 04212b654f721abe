import DynamicSql.Proofs.Delimited.Escaping

/-!
# Texts without tokens

A text can have openings and no token all the same: all of them are escaped, or all up to one whose
token does not end, behind which no opening counts.

* `exists_escape_append`: such a text is an escaped text, and what is left open behind it.
* `division_escape_append`: reading it drops the backslashes of the escaped part and no others.
* `tokens_append_of_plain`: no token comes into being when characters are written behind it that
  have no part in delimiters.
-/

namespace DynamicSql

/-! ## Escaped texts -/

namespace Text

/-- The backslashes are found where there are marks. -/
lemma escape_eq_self_iff {mark : Text} (hmark : NoOverlap mark) (hne : mark ≠ []) (s : Text) :
    escape mark s = s ↔ cut? mark s = none := by
  refine ⟨fun h => ?_, escape_of_none⟩
  have hlonger (t : Text) : t.length ≤ (escape mark t).length := by
    induction t with
    | nil => exact Nat.le_refl _
    | cons c rest ih =>
        rw [escape]
        split <;> simp only [List.length_cons] <;> omega
  rcases hcut : cut? mark s with _ | ⟨before, after⟩
  · rfl
  · have hlength := congrArg List.length (h.symm.trans (escape_of_cut? hmark hne hcut))
    have hsplit := congrArg List.length (cut?_append hcut)
    have hafter := hlonger after
    simp only [List.length_append, List.length_cons] at hlength hsplit
    omega

end Text

namespace Delimiters

/-! ## What is left open -/

/-- Whether a text is empty or begins with an opening whose token does not end. -/
def Unclosed (d : Delimiters) (s : Text) : Prop :=
  s = [] ∨ ∃ rest, s = d.opening ++ rest ∧ d.content? rest = none

variable {d : Delimiters} {mark : Char} {s t l r : Text}

/-- What is left open is literal. -/
lemma division_unclosed (h : d.Unclosed s) : d.division s = Division.literal s := by
  rcases h with rfl | ⟨rest, rfl, hcontent⟩
  · refine division_of_none ?_
    rw [Text.cut?, if_neg]
    simpa using d.opening_ne_nil
  · rw [division, segments_of_open (Text.cut?_mark_append _ _) rfl hcontent]
    exact Division.append_literal_nil _

/-- The first opening of a text is where it is put. -/
lemma cut?_append_opening (hmark : mark ≠ '{') (hcut : Text.cut? (braced mark).opening s = none)
    (t : Text) : Text.cut? (braced mark).opening (s ++ ((braced mark).opening ++ t)) =
      some (s, t) := by
  rw [Text.cut?_append_of_apart, Text.cut?_mark_append]
  · simp
  · rintro u v rfl hv ⟨w, hw⟩
    match v, hv with
    | [x], _ => exact hmark (List.cons.inj (List.cons.inj hw).2).1.symm
    | x :: y :: v, _ =>
        obtain ⟨rfl, htail⟩ := List.cons.inj hw
        obtain ⟨rfl, -⟩ := List.cons.inj htail
        exact Text.cut?_eq_none_iff.1 hcut ⟨u, v, by simp [braced]⟩

/-- **Reading an escaped text** and what is left open behind it drops the backslashes of the one and
leaves the other as it is. -/
theorem division_escape_append (hmark : mark ≠ '{') (hescape : mark ≠ '\\')
    (hr : (braced mark).Unclosed r) (hl : r ≠ [] → l.getLast? ≠ some '\\') :
    (braced mark).division (Text.escape (braced mark).opening l ++ r) =
      Division.literal (l ++ r) := by
  obtain ⟨hdivision, hterminated⟩ := division_escape hmark hescape l
  by_cases hne : r = []
  · rw [hne, List.append_nil, List.append_nil, hdivision]
  · obtain ⟨rest, hopening, -⟩ := hr.resolve_left hne
    have hapart : Apart mark (Text.escape (braced mark).opening l) r := by
      rw [hopening]
      exact apart_escape hmark (hl hne) rest
    rw [division_append hterminated hapart, hdivision, division_unclosed hr]
    rfl

/-- **A text without tokens** is an escaped text and what is left open behind it. -/
theorem exists_escape_append (hmark : mark ≠ '{') (s : Text) (h : (braced mark).tokens s = []) :
    ∃ l r, s = Text.escape (braced mark).opening l ++ r ∧ (braced mark).Unclosed r ∧
      (r ≠ [] → l.getLast? ≠ some '\\') := by
  rcases hcut : Text.cut? (braced mark).opening s with _ | ⟨before, rest⟩
  · refine ⟨s, [], ?_, .inl rfl, fun hne => absurd rfl hne⟩
    rw [Text.escape_of_none hcut, List.append_nil]
  · have hbefore := Text.cut?_before hcut (List.cons_ne_nil _ _)
    have happ := Text.cut?_append hcut
    have hlen := Text.length_of_cut? hcut
    rcases hesc : before.unescaped? with _ | kept
    · -- the first opening begins a token, which does not end
      have hopen : (braced mark).content? rest = none := by
        rcases hcontent : (braced mark).content? rest with _ | ⟨content, after⟩
        · rfl
        · rw [tokens, segments_of_token hcut hesc hcontent] at h
          cases h
      refine ⟨before, (braced mark).opening ++ rest, ?_, .inr ⟨rest, rfl, hopen⟩, fun _ hlast => ?_⟩
      · rw [Text.escape_of_none hbefore, happ, List.append_assoc]
      · rw [Text.unescaped?, if_pos hlast] at hesc
        cases hesc
    · have htokens : (braced mark).tokens rest = [] := by
        rw [tokens, segments_of_escaped hcut hesc] at h
        exact h
      obtain ⟨l, r, hrest, hr, hl⟩ := exists_escape_append hmark rest htokens
      obtain rfl : before = kept ++ ['\\'] := by
        unfold Text.unescaped? at hesc
        split at hesc
        · next hlast =>
          obtain rfl := Option.some.inj hesc
          exact (List.dropLast_append_getLast? _ hlast).symm
        · cases hesc
      have hkept : Text.cut? (braced mark).opening kept = none := by
        rw [Text.cut?_eq_none_iff] at hbefore ⊢
        exact fun hfound => hbefore (hfound.trans (List.prefix_append _ _).isInfix)
      refine ⟨kept ++ ((braced mark).opening ++ l), r, ?_, hr, fun hne hlast => ?_⟩
      · rw [Text.escape_of_cut? (noOverlap_opening hmark) (List.cons_ne_nil _ _)
          (cut?_append_opening hmark hkept l), happ, hrest]
        simp only [List.append_assoc, List.cons_append, List.nil_append]
      · rcases List.eq_nil_or_concat l with rfl | ⟨l, c, rfl⟩
        · simp [braced] at hlast
        · refine hl hne ?_
          simpa using hlast
termination_by s.length
decreasing_by
  simp only [braced, List.length_cons] at hlen
  omega

/-! ## Characters behind a text without tokens -/

/-- A token that does not end is not ended by characters without a closing. -/
lemma content?_append_eq_none (h : (braced mark).content? s = none) (ht : '}' ∉ t) :
    (braced mark).content? (s ++ t) = none := by
  fun_induction content? (braced mark) s with
  | case1 s hcut =>
      have hcut' : Text.cut? (braced mark).closing (s ++ t) = none := by
        rw [Text.cut?_eq_none_iff] at hcut ⊢
        intro hfound
        have hmem : '}' ∈ s ++ t := hfound.subset List.mem_cons_self
        rcases List.mem_append.1 hmem with hs | hmem
        · obtain ⟨u, v, rfl⟩ := List.append_of_mem hs
          exact hcut ⟨u, v, by simp [braced]⟩
        · exact ht hmem
      rw [content?_eq, hcut']
  | case2 => cases h
  | case3 s piece rest hcut kept hesc ih =>
      rw [content?_of_escaped (Text.cut?_append_of_cut? hcut t) hesc,
        ih (Option.map_eq_none_iff.1 h)]
      rfl

/-- **Characters without delimiters** make no token behind a text that has none. -/
theorem tokens_append_of_plain (hmark : mark ≠ '{') (hescape : mark ≠ '\\')
    (h : (braced mark).tokens s = []) (ht : ∀ c ∈ t, c ≠ mark ∧ c ≠ '{' ∧ c ≠ '}') :
    (braced mark).tokens (s ++ t) = [] := by
  obtain ⟨l, r, rfl, hr, hl⟩ := exists_escape_append hmark s h
  rcases hr with rfl | ⟨rest, rfl, hcontent⟩
  · have hplain : Text.cut? (braced mark).opening t = none := by
      rw [Text.cut?_eq_none_iff]
      exact fun hfound => (ht mark (hfound.subset List.mem_cons_self)).1 rfl
    have hapart : Apart mark (Text.escape (braced mark).opening l) t := by
      intro x _ y hy
      obtain ⟨hne, hbrace, -⟩ := ht y (List.mem_of_mem_head? hy)
      exact ⟨fun heq => hbrace heq.2, fun heq => hne heq.2⟩
    obtain ⟨hdivision, hterminated⟩ := division_escape hmark hescape l
    rw [List.append_nil, ← contents_division, division_append hterminated hapart, hdivision,
      division_of_none hplain]
    rfl
  · have hopen : (braced mark).content? (rest ++ t) = none :=
      content?_append_eq_none hcontent fun hmem => (ht '}' hmem).2.2 rfl
    have hlast := hl (List.append_ne_nil_of_left_ne_nil (List.cons_ne_nil _ _) _)
    rw [List.append_assoc, List.append_assoc, ← contents_division,
      division_escape_append hmark hescape (.inr ⟨rest ++ t, rfl, hopen⟩) fun _ => hlast]
    rfl

end Delimiters

end DynamicSql
