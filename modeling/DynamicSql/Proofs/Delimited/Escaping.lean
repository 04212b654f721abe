import DynamicSql.Proofs.Assembly
import DynamicSql.Proofs.Delimited.Concatenation

/-!
# Escaping

Any texts can be written as the literal text and the contents of one text with tokens: a backslash
goes before every opening in the literal text and before every closing in the contents
(`Delimiters.encode`). A backslash that is there already would escape the delimiter behind it, so
nothing in front of a delimiter may end with one.

* `division_encode`: dividing the written text gives the texts back.
* `replaceAll_escape`: reading a text drops its backslashes, so that a text that has been read once
  is not protected when it is read again.
* `scan_encode`: so a scan handles the contents, one after the other, and nothing else.
-/

namespace DynamicSql

namespace Text

/-! ## Backslashes before a mark -/

/-- The text with a backslash before every occurrence of a mark. -/
def escape (mark : Text) : Text → Text
  | [] => []
  | c :: rest =>
    if mark.isPrefixOf (c :: rest) then '\\' :: c :: escape mark rest else c :: escape mark rest

variable {mark s t before after : Text}

/-- Where no mark begins in `s`, only what stands behind `s` is escaped. -/
lemma escape_append_of_apart (s t : Text)
    (h : ∀ u v : Text, u ++ v = s → v ≠ [] → ¬ mark <+: v ++ t) :
    escape mark (s ++ t) = s ++ escape mark t := by
  induction s with
  | nil => rfl
  | cons c rest ih =>
      have hno : ¬ mark.isPrefixOf (c :: (rest ++ t)) = true := fun hp =>
        h [] (c :: rest) rfl (List.cons_ne_nil _ _) (List.isPrefixOf_iff_prefix.1 hp)
      have hrest := ih fun u v huv => h (c :: u) v (by rw [List.cons_append, huv])
      rw [List.cons_append, escape, if_neg hno, hrest, List.cons_append]

/-- A text without the mark is not changed. -/
lemma escape_of_none (h : cut? mark s = none) : escape mark s = s := by
  have hno : ∀ u v : Text, u ++ v = s → v ≠ [] → ¬ mark <+: v ++ [] := by
    rintro u v rfl - hp
    rw [List.append_nil] at hp
    exact cut?_eq_none_iff.1 h (hp.isInfix.trans (List.suffix_append u v).isInfix)
  simpa [escape] using escape_append_of_apart s [] hno

/-- Whether no occurrence of a mark overlaps another. -/
def NoOverlap (mark : Text) : Prop :=
  ∀ u v : Text, u ++ v = mark → u ≠ [] → v ≠ [] → ∀ t, ¬ mark <+: v ++ t

/-- A mark that leads a text is escaped, and then what is behind it. -/
lemma escape_mark_append (hmark : NoOverlap mark) (hne : mark ≠ []) (t : Text) :
    escape mark (mark ++ t) = '\\' :: (mark ++ escape mark t) := by
  obtain ⟨m, ms, rfl⟩ := List.exists_cons_of_ne_nil hne
  have hyes : (m :: ms).isPrefixOf (m :: (ms ++ t)) = true :=
    List.isPrefixOf_iff_prefix.2 (List.prefix_append (m :: ms) t)
  have htail : escape (m :: ms) (ms ++ t) = ms ++ escape (m :: ms) t := by
    refine escape_append_of_apart ms t fun u v huv hv => ?_
    exact hmark (m :: u) v (by rw [List.cons_append, huv]) (List.cons_ne_nil _ _) hv t
  rw [List.cons_append, escape, if_pos hyes, htail, List.cons_append]

/-- A text is escaped up to its first mark, and then behind it. -/
lemma escape_of_cut? (hmark : NoOverlap mark) (hne : mark ≠ [])
    (h : cut? mark s = some (before, after)) :
    escape mark s = before ++ '\\' :: (mark ++ escape mark after) := by
  rw [cut?_eq_some_iff] at h
  induction h with
  | here after => rw [escape_mark_append hmark hne, List.nil_append]
  | later hno rest ih =>
      rw [escape, if_neg (mt List.isPrefixOf_iff_prefix.1 hno), ih, List.cons_append]

/-- An escaped mark is the first mark if there is none before it. -/
lemma cut?_escaped (hmark : '\\' ∉ mark) (hbefore : cut? mark before = none) (t : Text) :
    cut? mark (before ++ '\\' :: (mark ++ t)) = some (before ++ ['\\'], t) := by
  have hno : ∀ u v : Text, u ++ v = before ++ ['\\'] → v ≠ [] → ¬ mark <+: v ++ (mark ++ t) := by
    rintro u v huv hv ⟨w, hw⟩
    obtain ⟨v, c, rfl⟩ := (List.eq_nil_or_concat v).resolve_left hv
    rw [List.concat_eq_append, ← List.append_assoc] at huv
    obtain ⟨rfl, hc⟩ := List.append_inj' huv rfl
    obtain rfl : c = '\\' := by simpa using hc
    -- the mark would end before the backslash, or contain it
    rw [List.concat_eq_append, List.append_assoc, List.append_eq_append_iff] at hw
    rcases hw with ⟨w', rfl, -⟩ | ⟨w', rfl, hw⟩
    · exact cut?_eq_none_iff.1 hbefore
        ((List.prefix_append mark w').isInfix.trans (List.suffix_append u _).isInfix)
    · cases w' with
      | nil =>
          rw [List.append_nil] at hbefore
          exact cut?_eq_none_iff.1 hbefore (List.suffix_append u v).isInfix
      | cons d w' =>
          obtain ⟨rfl, -⟩ := List.cons.inj hw
          exact hmark (by simp)
  have happ : before ++ '\\' :: (mark ++ t) = before ++ ['\\'] ++ (mark ++ t) := by simp
  rw [happ, cut?_append_of_apart _ _ hno, cut?_mark_append]
  simp

/-- What ends with a backslash is an escape. -/
lemma unescaped?_concat (s : Text) : (s ++ ['\\']).unescaped? = some s := by
  simp [unescaped?]

/-- Escaping does not change the end of a text. -/
lemma getLast?_escape (mark s : Text) : (escape mark s).getLast? = s.getLast? := by
  induction s with
  | nil => rfl
  | cons c rest ih =>
      have hrest : (c :: escape mark rest).getLast? = (c :: rest).getLast? := by
        rw [List.getLast?_cons, List.getLast?_cons, ih]
      rw [escape]
      split
      · rw [List.getLast?_cons_cons, hrest]
      · exact hrest

end Text

/-! ## Writing texts with tokens -/

namespace Delimiters

/-- The text in which literal text and contents are written, each delimiter in them behind a
backslash. -/
def encode (d : Delimiters) (division : Division) : Text :=
  Text.escape d.opening division.lead ++ division.pieces.flatMap fun (content, behind) =>
    d.wrap (Text.escape d.closing content) ++ Text.escape d.opening behind

lemma encode_mk_nil (d : Delimiters) (lead : Text) :
    d.encode ⟨lead, []⟩ = Text.escape d.opening lead := by
  rw [encode, List.flatMap_nil, List.append_nil]

lemma encode_mk_cons (d : Delimiters) (lead content behind : Text) (rest : List (Text × Text)) :
    d.encode ⟨lead, (content, behind) :: rest⟩ = Text.escape d.opening lead ++
      (d.opening ++ (Text.escape d.closing content ++ (d.closing ++ d.encode ⟨behind, rest⟩))) := by
  simp only [encode, wrap, List.flatMap_cons, List.append_assoc]

/-! ## Reading them back -/

variable {mark : Char}

/-- Openings do not overlap. -/
lemma noOverlap_opening (hmark : mark ≠ '{') : Text.NoOverlap (braced mark).opening := by
  rintro (_ | ⟨x, _ | ⟨y, u⟩⟩) v huv hu hv t ⟨w, hw⟩
  · exact hu rfl
  · obtain ⟨rfl, rfl⟩ : x = mark ∧ v = ['{'] := by simpa [braced] using huv
    obtain ⟨hx, -⟩ := List.cons.inj hw
    exact hmark hx
  · have hlen := congrArg List.length huv
    have := List.length_pos_iff.2 hv
    simp only [braced, List.length_append, List.length_cons, List.length_nil] at hlen
    omega

/-- Closings do not overlap. -/
lemma noOverlap_closing : Text.NoOverlap (braced mark).closing := by
  intro u v huv hu hv t _
  have hlen := congrArg List.length huv
  have := List.length_pos_iff.2 hu
  have := List.length_pos_iff.2 hv
  simp only [braced, List.length_append, List.length_cons, List.length_nil] at hlen
  omega

/-- **An escaped content is read back**, unless it ends with a backslash. -/
theorem content?_escape {content : Text} (hend : content.getLast? ≠ some '\\') (t : Text) :
    (braced mark).content? (Text.escape (braced mark).closing content ++
      ((braced mark).closing ++ t)) = some (content, t) := by
  rcases hcut : Text.cut? (braced mark).closing content with _ | ⟨before, after⟩
  · have hclosed : Text.cut? (braced mark).closing (content ++ ((braced mark).closing ++ t)) =
        some (content, t) := by
      rw [Text.cut?_append_of_apart, Text.cut?_mark_append]
      · simp
      · rintro u v rfl hv ⟨w, hw⟩
        obtain ⟨c, v, rfl⟩ := List.exists_cons_of_ne_nil hv
        obtain ⟨rfl, -⟩ := List.cons.inj hw
        exact Text.cut?_eq_none_iff.1 hcut ⟨u, v, by simp [braced]⟩
    rw [Text.escape_of_none hcut]
    exact content?_of_unescaped hclosed (by rw [Text.unescaped?, if_neg hend])
  · have hbefore := Text.cut?_before hcut (List.cons_ne_nil _ _)
    have happ := Text.cut?_append hcut
    have hlen := Text.length_of_cut? hcut
    have hlast : after.getLast? ≠ some '\\' := fun h => hend (by
      rw [happ, List.getLast?_append, h]
      rfl)
    rw [Text.escape_of_cut? noOverlap_closing (List.cons_ne_nil _ _) hcut, List.append_assoc,
      List.cons_append, List.append_assoc,
      content?_of_escaped (Text.cut?_escaped (by simp [braced]) hbefore _) (Text.unescaped?_concat _),
      content?_escape hlast, happ]
    rfl
termination_by content.length
decreasing_by
  simp only [braced, List.length_cons] at hlen
  omega

/-- **Escaped literal text is read back** and leaves no token open. -/
theorem division_escape (hmark : mark ≠ '{') (hescape : mark ≠ '\\') (s : Text) :
    (braced mark).division (Text.escape (braced mark).opening s) = Division.literal s ∧
      (braced mark).Terminated (Text.escape (braced mark).opening s) := by
  rcases hcut : Text.cut? (braced mark).opening s with _ | ⟨before, after⟩
  · rw [Text.escape_of_none hcut]
    exact ⟨division_of_none hcut, .plain hcut⟩
  · have hbefore := Text.cut?_before hcut (List.cons_ne_nil _ _)
    have hlen := Text.length_of_cut? hcut
    obtain ⟨hdivision, hterminated⟩ := division_escape hmark hescape after
    have hfirst := Text.cut?_escaped (by simp [braced, hescape.symm]) hbefore
      (Text.escape (braced mark).opening after)
    rw [Text.escape_of_cut? (noOverlap_opening hmark) (List.cons_ne_nil _ _) hcut]
    refine ⟨?_, .escaped hfirst (Text.unescaped?_concat before) hterminated⟩
    rw [division, segments_of_escaped hfirst (Text.unescaped?_concat before), Division.ofSegments]
    change Division.literal _ ++ (braced mark).division _ = _
    rw [hdivision, Division.literal_append, Text.cut?_append hcut]
    rfl
termination_by s.length
decreasing_by
  simp only [braced, List.length_cons] at hlen
  omega

/-- **A replacement drops the backslashes** before openings, and replaces nothing. -/
theorem replaceAll_escape (hmark : mark ≠ '{') (hescape : mark ≠ '\\') (replace : Text → Text)
    (s : Text) : (braced mark).replaceAll replace (Text.escape (braced mark).opening s) = s := by
  rw [replaceAll_eq, ← contents_division, (division_escape hmark hescape s).1,
    Division.contents_literal]
  exact Division.fill_mk_nil s _

/-- Escaped literal text is apart from a token behind it, unless it ends with a backslash. -/
lemma apart_escape (hmark : mark ≠ '{') {s : Text} (hend : s.getLast? ≠ some '\\') (t : Text) :
    Apart mark (Text.escape (braced mark).opening s) ((braced mark).opening ++ t) := by
  rintro x hx y ⟨⟩
  rw [Option.mem_def, Text.getLast?_escape] at hx
  exact ⟨fun h => hmark h.2, fun h => hend (h.1 ▸ hx)⟩

/-- Whether a division can be written: nothing in front of a delimiter ends with a backslash. -/
structure Encodable (division : Division) : Prop where
  /-- No content ends with a backslash. -/
  contents : ∀ t ∈ division.contents, t.getLast? ≠ some '\\'
  /-- No literal text but the last ends with a backslash. -/
  literals : ∀ l ∈ (division.lead :: division.pieces.map (·.2)).dropLast, l.getLast? ≠ some '\\'

/-- **Dividing what was written** gives the literal text and the contents back. -/
theorem division_encode (hmark : mark ≠ '{') (hescape : mark ≠ '\\') {division : Division}
    (h : Encodable division) :
    (braced mark).division ((braced mark).encode division) = division := by
  obtain ⟨lead, pieces⟩ := division
  induction pieces generalizing lead with
  | nil =>
      rw [encode_mk_nil, (division_escape hmark hescape lead).1]
      rfl
  | cons piece rest ih =>
      obtain ⟨content, behind⟩ := piece
      obtain ⟨hcontents, hliterals⟩ := h
      rw [Division.contents_mk_cons, List.forall_mem_cons] at hcontents
      rw [List.map_cons, List.dropLast_cons_cons, List.forall_mem_cons] at hliterals
      obtain ⟨hlead, hterminated⟩ := division_escape hmark hescape lead
      rw [encode_mk_cons, division_append hterminated (apart_escape hmark hliterals.1 _), hlead,
        division_of_token (Text.cut?_mark_append _ _) rfl (content?_escape hcontents.1 _),
        ih behind ⟨hcontents.2, hliterals.2⟩]
      simp [Division.literal_append, Division.token_append]

/-! ## Scans of what was written -/

variable {σ ε : Type}

/-- A handler with a state, called on several contents in order; the first error ends it. -/
def handled (handler : σ → Text → Except ε (Text × σ)) :
    σ → List Text → Except ε (List Text × σ)
  | state, [] => .ok ([], state)
  | state, content :: rest =>
    (handler state content).bind fun (replacement, next) =>
      (handled handler next rest).map fun (replacements, final) =>
        (replacement :: replacements, final)

/-- A scan of segments calls its handler on their contents in order. -/
lemma renderWith_eq (handler : σ → Text → Except ε (Text × σ)) (state : σ)
    (segments : List Segment) :
    renderWith handler state segments =
      (handled handler state (segments.filterMap Segment.content?)).map
        fun (replacements, final) => ((Division.ofSegments segments).fill replacements, final) := by
  induction segments generalizing state with
  | nil => rfl
  | cons segment rest ih =>
      cases segment with
      | literal s =>
          rw [renderWith, ih, contents_literal_cons, Division.ofSegments]
          rcases handled handler state (rest.filterMap Segment.content?) with e | ⟨texts, final⟩
          · rfl
          · simp [Except.map, Division.fill_literal_append]
      | token content =>
          rw [renderWith, contents_token_cons, Division.ofSegments, handled]
          rcases handler state content with e | ⟨text, next⟩
          · rfl
          · simp only [Except.bind, ih]
            rcases handled handler next (rest.filterMap Segment.content?) with e | ⟨texts, final⟩
            · rfl
            · simp [Except.map, Division.fill_token_append]

/-- **A scan is read off the division**, also if its handler keeps a state. -/
theorem scanWith_eq (d : Delimiters) (handler : σ → Text → Except ε (Text × σ)) (state : σ)
    (s : Text) :
    d.scanWith handler state s = (handled handler state (d.tokens s)).map
      fun (replacements, final) => ((d.division s).fill replacements, final) :=
  renderWith_eq handler state (d.segments s)

/-- **A scan undoes the writing.** Text that was written with its delimiters escaped, for
substitutions or for placeholders, is scanned by handling the contents in order and putting what
they become between the literal texts. This holds for handlers that keep a state, which see the
contents and nothing else. Without a state, the scan succeeds if every content has a replacement,
and otherwise ends with the error of the first that has none. -/
theorem scan_encode {d : Delimiters} (hd : d = substitution ∨ d = placeholder)
    {division : Division} (h : Encodable division) :
    d.tokens (d.encode division) = division.contents ∧
    (∀ (σ ε : Type) (handler : σ → Text → Except ε (Text × σ)) (state : σ),
      d.scanWith handler state (d.encode division) =
        (handled handler state division.contents).map
          fun (replacements, final) => (division.fill replacements, final)) ∧
    ∀ (ε : Type) (replace : Text → Except ε Text),
      (∀ replacements, List.Forall₂ (fun t r => replace t = .ok r) division.contents replacements →
        d.scan replace (d.encode division) = .ok (division.fill replacements)) ∧
      ∀ e, d.scan replace (d.encode division) = .error e ↔
        ∃ before t after, division.contents = before ++ t :: after ∧
          (∀ t' ∈ before, ∃ r, replace t' = .ok r) ∧ replace t = .error e := by
  have hdivision : d.division (d.encode division) = division := by
    rcases hd with rfl | rfl
    · exact @division_encode '$' (by decide) (by decide) division h
    · exact @division_encode '#' (by decide) (by decide) division h
  have htokens : d.tokens (d.encode division) = division.contents := by
    rw [← contents_division, hdivision]
  refine ⟨htokens, fun σ ε handler state => ?_, fun ε replace => ⟨fun replacements hr => ?_,
    fun e => ?_⟩⟩
  · rw [scanWith_eq, htokens, hdivision]
  · rw [scan_eq, htokens, hdivision, mapM_eq_ok_iff.2 hr]
    rfl
  · rw [scan_eq, htokens, hdivision, ← mapM_eq_error_iff]
    rcases division.contents.mapM replace with e' | texts <;> simp [Except.map]

/-- Literal text with openings and backslashes, and contents with closings, for placeholders. -/
theorem scan_encode_mixed :
    let division : Division := ⟨"a\\b#\x7b#".toList,
      [("x\\\x7dy\x7d".toList, "\x7d#\x7b".toList), ("".toList, "#\x7b\\".toList)]⟩
    Encodable division ∧
      Delimiters.placeholder.tokens (Delimiters.placeholder.encode division) =
        ["x\\\x7dy\x7d".toList, "".toList] := by
  intro division
  have h : Encodable division := ⟨by decide, by decide⟩
  exact ⟨h, (scan_encode (.inr rfl) h).1⟩

end Delimiters

end DynamicSql
