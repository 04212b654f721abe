import DynamicSql.Proofs.Delimited.Concatenation

/-!
# Rewriting contents

A scan that puts every token back with another content leaves the literal text as it is. In a text
without backslashes nothing else happens, whether a token is left open or not. If every token is put
back as it was, so is the text, whatever the delimiters are (`replaceAll_wrap`). Otherwise the
tokens of the result are the contents that were put in (`division_rewritten`), so that a second scan
finds exactly those.
-/

namespace DynamicSql.Delimiters

variable {d : Delimiters} {mark : Char} {s before rest content after : Text}

/-! ## Texts without backslashes -/

/-- A text that ends with a backslash has one. -/
lemma mem_of_unescaped? {kept : Text} (h : s.unescaped? = some kept) : '\\' ∈ s := by
  rw [Text.unescaped?] at h
  split at h
  · next hlast => exact List.mem_of_getLast? hlast
  · cases h

/-- The parts of a text without backslashes have none. -/
lemma not_mem_of_cut? {delimiter : Text} (hescape : '\\' ∉ s)
    (hcut : Text.cut? delimiter s = some (before, rest)) : '\\' ∉ before ∧ '\\' ∉ rest := by
  rw [Text.cut?_append hcut] at hescape
  simp only [List.mem_append, not_or] at hescape
  exact ⟨hescape.1.1, hescape.2⟩

/-- Without backslashes there are no escapes. -/
lemma not_escaped {delimiter kept : Text} (hescape : '\\' ∉ s)
    (hcut : Text.cut? delimiter s = some (before, rest)) : before.unescaped? ≠ some kept :=
  fun hesc => (not_mem_of_cut? hescape hcut).1 (mem_of_unescaped? hesc)

/-- A content without backslashes ends at the first closing. -/
lemma cut?_of_content? (hescape : '\\' ∉ s) (h : d.content? s = some (content, after)) :
    Text.cut? d.closing s = some (content, after) := by
  rw [content?] at h
  split at h
  · cases h
  · next hcut =>
    split at h
    · rwa [Option.some.inj h] at hcut
    · next hesc => exact absurd hesc (not_escaped hescape hcut)

/-- **Tokens that are put back as they were** leave a text without backslashes as it is. -/
theorem replaceAll_wrap (d : Delimiters) (hescape : '\\' ∉ s) : d.replaceAll d.wrap s = s := by
  unfold replaceAll
  fun_induction segments d s with
  | case1 s hcut => exact List.append_nil s
  | case2 s before rest hcut kept hesc ih => exact absurd hesc (not_escaped hescape hcut)
  | case3 s before rest hcut hesc hcontent => exact List.append_nil s
  | case4 s before rest hcut hesc content after hcontent ih =>
      obtain ⟨-, hrest⟩ := not_mem_of_cut? hescape hcut
      have hclose := cut?_of_content? hrest hcontent
      rw [List.flatMap_cons, List.flatMap_cons, ih (not_mem_of_cut? hrest hclose).2, Segment.text,
        Segment.text, wrap]
      conv_rhs => rw [Text.cut?_append hcut, Text.cut?_append hclose]
      simp only [List.append_assoc]

/-! ## Reading a token back -/

/-- A content that nothing in it closes or escapes is read back. -/
lemma content?_closed (hclose : '}' ∉ content) (hescape : '\\' ∉ content) (t : Text) :
    (braced mark).content? (content ++ '}' :: t) = some (content, t) := by
  have hcut : Text.cut? (braced mark).closing (content ++ '}' :: t) = some (content, t) := by
    rw [Text.cut?_append_of_apart]
    · change (Text.cut? ['}'] (['}'] ++ t)).map _ = _
      rw [Text.cut?_mark_append]
      simp
    · rintro u v rfl hv ⟨w, hw⟩
      obtain ⟨c, v, rfl⟩ := List.exists_cons_of_ne_nil hv
      obtain ⟨rfl, -⟩ := List.cons.inj hw
      exact hclose (by simp)
  refine content?_of_unescaped hcut ?_
  rw [Text.unescaped?, if_neg]
  intro hlast
  exact hescape (List.mem_of_getLast? hlast)

/-- The first token of a text that one is put in front of. -/
lemma cut?_wrap_append (content t : Text) :
    Text.cut? (braced mark).opening ((braced mark).wrap content ++ t) =
      some ([], content ++ '}' :: t) := by
  rw [wrap, List.append_assoc, List.append_assoc, Text.cut?_mark_append]
  rfl

/-- A token in front of a text is the first token of the whole. -/
lemma division_wrap_append (hclose : '}' ∉ content) (hescape : '\\' ∉ content) (t : Text) :
    (braced mark).division ((braced mark).wrap content ++ t) =
      Division.token content ++ (braced mark).division t := by
  rw [division_of_token (cut?_wrap_append content t) rfl (content?_closed hclose hescape t)]
  rfl

/-- A token in front of a text that leaves none open leaves none open. -/
lemma Terminated.wrap_append (hclose : '}' ∉ content) (hescape : '\\' ∉ content)
    {t : Text} (ht : (braced mark).Terminated t) :
    (braced mark).Terminated ((braced mark).wrap content ++ t) :=
  .token (cut?_wrap_append content t) rfl (content?_closed hclose hescape t) ht

/-- A text without backslashes is apart from a token behind it. -/
lemma apart_wrap (hmark : mark ≠ '{') (hescape : '\\' ∉ before) (content t : Text) :
    Apart mark before ((braced mark).wrap content ++ t) := by
  rintro x hx y ⟨⟩
  refine ⟨fun h => hmark h.2, fun h => hescape ?_⟩
  rw [← h.1]
  exact List.mem_of_getLast? hx

/-! ## Rewriting -/

/-- The text with its contents rewritten. -/
def rewritten (d : Delimiters) (rewrite : Text → Text) (s : Text) : Text :=
  d.replaceAll (fun content => d.wrap (rewrite content)) s

/-- A text without tokens is not rewritten. -/
lemma rewritten_of_literal (h : d.segments s = [.literal s]) (rewrite : Text → Text) :
    d.rewritten rewrite s = s := by
  rw [rewritten, replaceAll, h]
  exact List.append_nil s

/-- A text that begins with a token is rewritten token by token. -/
lemma rewritten_of_token (hcut : Text.cut? d.opening s = some (before, rest))
    (hesc : before.unescaped? = none) (hcontent : d.content? rest = some (content, after))
    (rewrite : Text → Text) :
    d.rewritten rewrite s = before ++ (d.wrap (rewrite content) ++ d.rewritten rewrite after) := by
  simp only [rewritten, replaceAll, segments_of_token hcut hesc hcontent, List.flatMap_cons,
    Segment.text]

/-- A literal text has no tokens. -/
lemma tokens_of_literal (h : d.segments s = [.literal s]) : d.tokens s = [] := by
  rw [tokens, h]
  rfl

/-- The contents of a text that begins with a token. -/
lemma tokens_of_token (hcut : Text.cut? d.opening s = some (before, rest))
    (hesc : before.unescaped? = none) (hcontent : d.content? rest = some (content, after)) :
    d.tokens s = content :: d.tokens after := by
  simp only [tokens, segments_of_token hcut hesc hcontent, contents_literal_cons,
    contents_token_cons]

/-- The contents of a text without backslashes have no backslashes and no closing braces. -/
theorem closed_of_mem_tokens (hescape : '\\' ∉ s) :
    ∀ content ∈ (braced mark).tokens s, '}' ∉ content ∧ '\\' ∉ content := by
  fun_induction segments (braced mark) s with
  | case1 s hcut => simp [tokens_of_literal (segments_of_none hcut)]
  | case2 s before rest hcut kept hesc ih => exact absurd hesc (not_escaped hescape hcut)
  | case3 s before rest hcut hesc hcontent =>
      simp [tokens_of_literal (segments_of_open hcut hesc hcontent)]
  | case4 s before rest hcut hesc content after hcontent ih =>
      obtain ⟨-, hrest⟩ := not_mem_of_cut? hescape hcut
      have hclose := cut?_of_content? hrest hcontent
      obtain ⟨hcontent', hafter⟩ := not_mem_of_cut? hrest hclose
      rw [tokens_of_token hcut hesc hcontent, List.forall_mem_cons]
      refine ⟨⟨fun hmem => ?_, hcontent'⟩, ih hafter⟩
      obtain ⟨u, v, rfl⟩ := List.append_of_mem hmem
      exact Text.cut?_eq_none_iff.1 (Text.cut?_before hclose (List.cons_ne_nil _ _))
        ⟨u, v, by simp [braced]⟩

section rewritten

variable {rewrite : Text → Text} (hmark : mark ≠ '{') (hescape : '\\' ∉ s)
  (hnew : ∀ content ∈ (braced mark).tokens s, '}' ∉ rewrite content ∧ '\\' ∉ rewrite content)

include hmark hescape hnew

/-- **Rewriting the contents of a text rewrites its division**, if it has no backslashes, and the
new contents have no backslashes and no closing braces. -/
theorem division_rewritten :
    (braced mark).division ((braced mark).rewritten rewrite s) =
      ((braced mark).division s).mapContents rewrite := by
  fun_induction segments (braced mark) s with
  | case1 s hcut =>
      rw [rewritten_of_literal (segments_of_none hcut), division_of_none hcut]
      rfl
  | case2 s before rest hcut kept hesc ih => exact absurd hesc (not_escaped hescape hcut)
  | case3 s before rest hcut hesc hcontent =>
      have hliteral := segments_of_open hcut hesc hcontent
      rw [rewritten_of_literal hliteral, division, hliteral]
      rfl
  | case4 s before rest hcut hesc content after hcontent ih =>
      obtain ⟨hbefore, hrest⟩ := not_mem_of_cut? hescape hcut
      have hafter := (not_mem_of_cut? hrest (cut?_of_content? hrest hcontent)).2
      rw [tokens_of_token hcut hesc hcontent, List.forall_mem_cons] at hnew
      have hplain := Text.cut?_before hcut (braced mark).opening_ne_nil
      rw [rewritten_of_token hcut hesc hcontent,
        division_append (.plain hplain) (apart_wrap hmark hbefore _ _),
        division_wrap_append hnew.1.1 hnew.1.2, ih hafter hnew.2, division_of_none hplain,
        division_of_token hcut hesc hcontent]
      rfl

/-- Rewriting leaves no token open where none was. -/
theorem Terminated.rewritten (hs : (braced mark).Terminated s) :
    (braced mark).Terminated ((braced mark).rewritten rewrite s) := by
  induction hs with
  | plain hcut =>
      rw [rewritten_of_literal (segments_of_none hcut)]
      exact .plain hcut
  | escaped hcut hesc _ _ => exact absurd hesc (not_escaped hescape hcut)
  | token hcut hesc hcontent _ ih =>
      obtain ⟨hbefore, hrest⟩ := not_mem_of_cut? hescape hcut
      have hafter := (not_mem_of_cut? hrest (cut?_of_content? hrest hcontent)).2
      rw [tokens_of_token hcut hesc hcontent, List.forall_mem_cons] at hnew
      rw [rewritten_of_token hcut hesc hcontent]
      exact .append (.plain (Text.cut?_before hcut (braced mark).opening_ne_nil))
        (apart_wrap hmark hbefore _ _) ((ih hafter hnew.2).wrap_append hnew.1.1 hnew.1.2)

omit hmark in
/-- Rewriting brings in no backslashes. -/
lemma not_mem_rewritten (hslash : mark ≠ '\\') : '\\' ∉ (braced mark).rewritten rewrite s := by
  fun_induction segments (braced mark) s with
  | case1 s hcut => rwa [rewritten_of_literal (segments_of_none hcut)]
  | case2 s before rest hcut kept hesc ih => exact absurd hesc (not_escaped hescape hcut)
  | case3 s before rest hcut hesc hcontent =>
      rwa [rewritten_of_literal (segments_of_open hcut hesc hcontent)]
  | case4 s before rest hcut hesc content after hcontent ih =>
      obtain ⟨hbefore, hrest⟩ := not_mem_of_cut? hescape hcut
      have hafter := (not_mem_of_cut? hrest (cut?_of_content? hrest hcontent)).2
      rw [tokens_of_token hcut hesc hcontent, List.forall_mem_cons] at hnew
      have hopening : '\\' ∉ (braced mark).opening := by simp [braced, hslash.symm]
      have hclosing : '\\' ∉ (braced mark).closing := by simp [braced]
      rw [rewritten_of_token hcut hesc hcontent, wrap]
      simp only [List.mem_append, not_or]
      exact ⟨hbefore, ⟨⟨hopening, hnew.1.2⟩, hclosing⟩, ih hafter hnew.2⟩

end rewritten

end DynamicSql.Delimiters
