import DynamicSql.Proofs.Delimited.Rewriting

/-!
# Replacing some tokens

When tokens are replaced by other text, what stands side by side in the result was apart before, and
could be read as a token together. Text that holds no mark, no opening brace and no backslash does
not let this happen, unless it is empty.

* `tokens_eq_nil_iff`: without backslashes, a token is a text between delimiters.
* `tokens_fill`: if each token is replaced by such text or kept, the tokens of the result are those
  that were kept.
-/

namespace DynamicSql.Delimiters

/-! ## Tokens of a text without backslashes -/

/-- **A text without backslashes has a token** exactly if some text stands between delimiters. -/
theorem tokens_eq_nil_iff (d : Delimiters) {s : Text} (hescape : '\\' ∉ s) :
    d.tokens s = [] ↔ ∀ content, ¬ d.wrap content <:+: s := by
  constructor
  · rintro h content ⟨u, v, hs⟩
    have hopening : u ++ (d.opening ++ (content ++ (d.closing ++ v))) = s := by
      rw [← hs, wrap]
      simp only [List.append_assoc]
    rcases hcut : Text.cut? d.opening s with _ | ⟨before, rest⟩
    · exact Text.cut?_eq_none_iff.1 hcut ⟨u, content ++ (d.closing ++ v), by simpa using hopening⟩
    · have hsuffix := Text.suffix_of_cut? u _ (hopening ▸ hcut)
      have hclosing : d.closing <:+: rest :=
        ((List.prefix_append d.closing v).isInfix.trans
          (List.suffix_append content _).isInfix).trans hsuffix.isInfix
      rcases hclose : Text.cut? d.closing rest with _ | ⟨piece, after⟩
      · exact Text.cut?_eq_none_iff.1 hclose hclosing
      · have hrest := (not_mem_of_cut? hescape hcut).2
        have hcontent := content?_of_unescaped hclose
          (Option.eq_none_iff_forall_ne_some.2 fun _ => not_escaped hrest hclose)
        have hbefore := Option.eq_none_iff_forall_ne_some.2 fun _ => not_escaped hescape hcut
        rw [tokens_of_token hcut hbefore hcontent] at h
        cases h
  · intro h
    fun_induction segments d s with
    | case1 s hcut => exact tokens_of_literal (segments_of_none hcut)
    | case2 s before rest hcut kept hesc ih => exact absurd hesc (not_escaped hescape hcut)
    | case3 s before rest hcut hesc hcontent =>
        exact tokens_of_literal (segments_of_open hcut hesc hcontent)
    | case4 s before rest hcut hesc content after hcontent ih =>
        have hclose := cut?_of_content? (not_mem_of_cut? hescape hcut).2 hcontent
        refine absurd ⟨before, after, ?_⟩ (h content)
        rw [Text.cut?_append hcut, Text.cut?_append hclose, wrap]
        simp only [List.append_assoc]

/-! ## Text that makes no tokens -/

variable {mark : Char} {s : Text}

/-- Whether a text makes no token with anything around it. -/
structure Inert (mark : Char) (r : Text) : Prop where
  /-- It keeps apart what stands around it. -/
  ne_nil : r ≠ []
  /-- It begins no opening. -/
  mark : mark ∉ r
  /-- It ends no opening. -/
  brace : '{' ∉ r
  /-- It escapes nothing. -/
  escape : '\\' ∉ r

/-- A text without backslashes is apart from an inert one behind it. -/
lemma Inert.apart_left {r a : Text} (h : Inert mark r) (hescape : '\\' ∉ a) (t : Text) :
    Apart mark a (r ++ t) := by
  intro x hx y hy
  obtain ⟨c, r, rfl⟩ := List.exists_cons_of_ne_nil h.ne_nil
  obtain rfl : c = y := Option.some.inj hy
  refine ⟨fun hopen => h.brace ?_, fun hesc => hescape ?_⟩
  · rw [← hopen.2]
    exact List.mem_cons_self
  · rw [← hesc.1]
    exact List.mem_of_getLast? hx

/-- An inert text is apart from everything behind it. -/
lemma Inert.apart_right {r : Text} (h : Inert mark r) (t : Text) : Apart mark r t := by
  intro x hx y _
  have hmem := List.mem_of_getLast? hx
  refine ⟨fun hopen => h.mark ?_, fun hesc => h.escape ?_⟩
  · rw [← hopen.1]
    exact hmem
  · rw [← hesc.1]
    exact hmem

/-- An inert text has no opening. -/
lemma Inert.cut?_opening {r : Text} (h : Inert mark r) :
    Text.cut? (braced mark).opening r = none := by
  rw [Text.cut?_eq_none_iff]
  exact fun hopen => h.mark (hopen.subset List.mem_cons_self)

/-- What may be written for contents, and the contents that are kept by it: for each one, an inert
text, or the token that it was. -/
inductive Settles (mark : Char) : List Text → List Text → List Text → Prop
  /-- There are no contents. -/
  | nil : Settles mark [] [] []
  /-- A content is replaced. -/
  | replaced {content r : Text} {contents rs kept : List Text} (h : Inert mark r) :
      Settles mark contents rs kept → Settles mark (content :: contents) (r :: rs) kept
  /-- A content is kept. -/
  | kept {content : Text} {contents rs kept : List Text} :
      Settles mark contents rs kept →
        Settles mark (content :: contents) ((braced mark).wrap content :: rs) (content :: kept)

/-- As many inert texts as there are contents keep none of them. -/
lemma Settles.of_inert {contents rs : List Text} (hlen : rs.length = contents.length)
    (h : ∀ r ∈ rs, Inert mark r) : Settles mark contents rs [] := by
  induction contents generalizing rs with
  | nil =>
      obtain rfl := List.length_eq_zero_iff.1 hlen
      exact .nil
  | cons content contents ih =>
      obtain ⟨r, rs, rfl⟩ := List.exists_cons_of_length_eq_add_one hlen
      rw [List.forall_mem_cons] at h
      exact .replaced h.1 (ih (Nat.succ.inj hlen) h.2)

/-- A text that begins with a token is filled token by token. -/
lemma fill_of_token {d : Delimiters} {before rest content after : Text}
    (hcut : Text.cut? d.opening s = some (before, rest)) (hesc : before.unescaped? = none)
    (hcontent : d.content? rest = some (content, after)) (r : Text) (rs : List Text) :
    (d.division s).fill (r :: rs) = before ++ (r ++ (d.division after).fill rs) := by
  rw [division_of_token hcut hesc hcontent, Division.fill_literal_append,
    Division.fill_token_append]

/-- A literal text is filled with nothing. -/
lemma fill_of_literal {d : Delimiters} (h : d.segments s = [.literal s]) (rs : List Text) :
    (d.division s).fill rs = s := by
  rw [division, h]
  change (Division.literal s ++ Division.literal []).fill rs = s
  rw [Division.append_literal_nil]
  exact Division.fill_mk_nil s rs

section fill

variable {rs kept : List Text} (hescape : '\\' ∉ s)
  (h : Settles mark ((braced mark).tokens s) rs kept)

include hescape h

/-- Neither inert texts nor the tokens that were there bring in backslashes. -/
lemma not_mem_fill (hslash : mark ≠ '\\') : '\\' ∉ ((braced mark).division s).fill rs := by
  fun_induction segments (braced mark) s generalizing rs kept with
  | case1 s hcut => rwa [fill_of_literal (segments_of_none hcut)]
  | case2 s before rest hcut _ hesc ih => exact absurd hesc (not_escaped hescape hcut)
  | case3 s before rest hcut hesc hcontent =>
      rwa [fill_of_literal (segments_of_open hcut hesc hcontent)]
  | case4 s before rest hcut hesc content after hcontent ih =>
      obtain ⟨hbefore, hrest⟩ := not_mem_of_cut? hescape hcut
      obtain ⟨hin, hafter⟩ := not_mem_of_cut? hrest (cut?_of_content? hrest hcontent)
      rw [tokens_of_token hcut hesc hcontent] at h
      cases h with
      | replaced hr h =>
          rw [fill_of_token hcut hesc hcontent]
          simp only [List.mem_append, not_or]
          exact ⟨hbefore, hr.escape, ih hafter h⟩
      | kept h =>
          have hopening : '\\' ∉ (braced mark).opening := by simp [braced, hslash.symm]
          have hclosing : '\\' ∉ (braced mark).closing := by simp [braced]
          rw [fill_of_token hcut hesc hcontent, wrap]
          simp only [List.mem_append, not_or]
          exact ⟨hbefore, ⟨⟨hopening, hin⟩, hclosing⟩, ih hafter h⟩

/-- **The tokens that are left** when the tokens of a text without backslashes are replaced by inert
texts or kept are those that were kept. -/
theorem tokens_fill (hmark : mark ≠ '{') :
    (braced mark).tokens (((braced mark).division s).fill rs) = kept := by
  fun_induction segments (braced mark) s generalizing rs kept with
  | case1 s hcut =>
      have hliteral := segments_of_none hcut
      rw [tokens_of_literal hliteral] at h
      cases h
      rw [fill_of_literal hliteral, tokens_of_literal hliteral]
  | case2 s before rest hcut _ hesc ih => exact absurd hesc (not_escaped hescape hcut)
  | case3 s before rest hcut hesc hcontent =>
      have hliteral := segments_of_open hcut hesc hcontent
      rw [tokens_of_literal hliteral] at h
      cases h
      rw [fill_of_literal hliteral, tokens_of_literal hliteral]
  | case4 s before rest hcut hesc content after hcontent ih =>
      obtain ⟨hbefore, hrest⟩ := not_mem_of_cut? hescape hcut
      have hclose := cut?_of_content? hrest hcontent
      obtain ⟨hin, hafter⟩ := not_mem_of_cut? hrest hclose
      have hplain := Text.cut?_before hcut (braced mark).opening_ne_nil
      have hcontents : ∀ c ∈ (braced mark).tokens s, '}' ∉ c ∧ '\\' ∉ c :=
        closed_of_mem_tokens hescape
      rw [tokens_of_token hcut hesc hcontent] at h hcontents
      cases h with
      | replaced hr h =>
          rw [fill_of_token hcut hesc hcontent,
            tokens_append_of_none hplain (hr.apart_left hbefore _),
            tokens_append_of_none hr.cut?_opening (hr.apart_right _), ih hafter h]
      | kept h =>
          have hclosed := (hcontents content List.mem_cons_self).1
          rw [fill_of_token hcut hesc hcontent,
            tokens_append_of_none hplain (apart_wrap hmark hbefore _ _), ← contents_division,
            division_wrap_append hclosed hin, Division.contents_append, contents_division,
            ih hafter h]
          rfl

end fill

end DynamicSql.Delimiters
