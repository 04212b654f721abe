import DynamicSql.BoundSql
import DynamicSql.Proofs.Delimited.Replacing
import DynamicSql.Proofs.Results
import DynamicSql.Proofs.Text.Span

/-!
# Assembling bound SQL

The placeholders of a text become markers, and for each of them what it says and its value are
listed. Here the three sequences are tied to the tokens of the text.

* `assemble_eq`: assembling reads the tokens in order and fills the markers into the division.
* `assemble_eq_scanWith`: it is one scan whose handler keeps two lists and takes the number of
  the marker from the length of one of them.
* `assemble_aligned`: when it succeeds and with what, and else with which error.
* `assemble_settled`: an assembled text has no placeholders, unless there were backslashes.
-/

namespace DynamicSql

/-! ## Scans that keep a state -/

namespace Delimiters

variable {σ ε : Type}

/-- The text of a list of pieces in which every content is handled, one after the other; the
handler gives a replacement and a new state. -/
def renderWith (handler : σ → Text → Except ε (Text × σ)) :
    σ → List Segment → Except ε (Text × σ)
  | state, [] => .ok ([], state)
  | state, .literal s :: rest =>
    (renderWith handler state rest).map fun (text, final) => (s ++ text, final)
  | state, .token content :: rest =>
    (handler state content).bind fun (replacement, next) =>
      (renderWith handler next rest).map fun (text, final) => (replacement ++ text, final)

/-- The scan of a text with a handler that keeps a state. -/
def scanWith (d : Delimiters) (handler : σ → Text → Except ε (Text × σ)) (state : σ) (s : Text) :
    Except ε (Text × σ) :=
  renderWith handler state (d.segments s)

end Delimiters

/-! ## Markers -/

/-- The markers of `count` parameters, of which `before` others stand before. -/
def MarkerStyle.markers (style : MarkerStyle) (before count : Nat) : List Text :=
  (List.range' (before + 1) count).map style.marker

/-- The first of several markers has the next position. -/
lemma MarkerStyle.markers_succ (style : MarkerStyle) (before count : Nat) :
    style.markers before (count + 1) =
      style.marker (before + 1) :: style.markers (before + 1) count := by
  simp [markers, List.range'_succ]

@[simp] lemma MarkerStyle.length_markers (style : MarkerStyle) (before count : Nat) :
    (style.markers before count).length = count := by
  simp [markers]

/-- Markers are numbered through. -/
lemma MarkerStyle.markers_add (style : MarkerStyle) (before m n : Nat) :
    style.markers before (m + n) = style.markers before m ++ style.markers (before + m) n := by
  have hrange : List.range' (before + 1) m ++ List.range' (before + m + 1) n =
      List.range' (before + 1) (m + n) := by
    rw [Nat.add_right_comm]
    exact List.range'_append_1
  rw [markers, markers, markers, ← List.map_append, hrange]

/-- A marker makes no placeholder, whatever stands around it. -/
lemma MarkerStyle.inert_marker (style : MarkerStyle) (position : Nat) :
    Delimiters.Inert '#' (style.marker position) := by
  have hmark := Text.not_mem_ofNat (c := '#') rfl position
  have hbrace := Text.not_mem_ofNat (c := '{') rfl position
  have hescape := Text.not_mem_ofNat (c := '\\') rfl position
  cases style with
  | question => constructor <;> simp [marker]
  | dollar => constructor <;> simp [marker, hmark, hbrace, hescape]
  | colon => constructor <;> simp [marker, hmark, hbrace, hescape]
  | atP => constructor <;> simp [marker, hmark, hbrace, hescape]

/-! ## The value of a placeholder -/

namespace Placeholder

/-- A content is bound if it can be read and has a value. -/
lemma bound_eq_ok_iff {b : Bindings} {content : Text} {p : Placeholder} {v : Value} :
    bound b content = .ok (p, v) ↔ parse content = .ok p ∧ p.resolve b = .ok v := by
  unfold bound
  rcases parse content with fault | q
  · simp
  · rcases hq : q.resolve b with e | w
    · simp only [hq, reduceCtorEq, Except.ok.injEq, false_iff, not_and]
      rintro rfl
      simp [hq]
    · simp only [hq, Except.ok.injEq, Prod.mk.injEq]
      constructor
      · rintro ⟨rfl, rfl⟩
        exact ⟨rfl, hq⟩
      · rintro ⟨rfl, hw⟩
        rw [hq] at hw
        exact ⟨rfl, Except.ok.inj hw⟩

/-- The error of a content: reading comes first, then the value. -/
lemma bound_eq_error_iff {b : Bindings} {content : Text} {e : SqlError} :
    bound b content = .error e ↔
      (∃ fault, parse content = .error fault ∧ e = .placeholder content fault) ∨
        ∃ p cause, parse content = .ok p ∧ p.resolve b = .error cause ∧ e = .eval cause := by
  unfold bound
  rcases parse content with fault | q
  · simp [eq_comm]
  · rcases hq : q.resolve b with cause | w <;> simp [hq, eq_comm]

end Placeholder

/-! ## Assembling -/

namespace BoundSql

variable (b : Bindings) (style : MarkerStyle)

/-- The pieces of a text are assembled by reading their contents in order. -/
lemma assemblePieces_eq (count : Nat) (segments : List Segment) :
    assemblePieces b style count segments =
      ((segments.filterMap Delimiters.Segment.content?).mapM (Placeholder.bound b)).map fun bound =>
        ((Division.ofSegments segments).fill (style.markers count bound.length), bound) := by
  induction segments generalizing count with
  | nil => rfl
  | cons segment rest ih =>
      cases segment with
      | literal s =>
          rw [assemblePieces, ih, Delimiters.contents_literal_cons, Division.ofSegments]
          rcases (rest.filterMap Delimiters.Segment.content?).mapM (Placeholder.bound b) with e | l
          · rfl
          · simp [Except.map, Division.fill_literal_append]
      | token content =>
          rw [assemblePieces, Delimiters.contents_token_cons, Division.ofSegments]
          rcases hbound : Placeholder.bound b content with e | p
          · rw [mapM_cons_of_error hbound]
            rfl
          · rw [mapM_cons_of_ok hbound, Except.bind, ih]
            rcases (rest.filterMap Delimiters.Segment.content?).mapM (Placeholder.bound b) with e | l
            · rfl
            · simp only [Except.map, List.length_cons, MarkerStyle.markers_succ,
                Division.fill_token_append]

/-- **Assembling reads the tokens in order** and fills the markers, counted from 1, into the
division of the text. -/
theorem assemble_eq (sql : Text) :
    assemble sql b style =
      ((Delimiters.placeholder.tokens sql).mapM (Placeholder.bound b)).map fun bound =>
        { sql := (Delimiters.placeholder.division sql).fill (style.markers 0 bound.length)
          placeholders := bound.map (·.1)
          parameters := bound.map (·.2)
          additional := b } := by
  rw [assemble, assemblePieces_eq]
  change Except.map _ (Except.map _ ((Delimiters.placeholder.tokens sql).mapM _)) = _
  rcases (Delimiters.placeholder.tokens sql).mapM (Placeholder.bound b) with e | l <;> rfl

/-- What a scan that numbers the placeholders does with a content: it is read, its value is found,
both are put down behind those before, and the marker is numbered by what is put down. -/
def number (seen : List Placeholder × List Value) (content : Text) :
    Except SqlError (Text × List Placeholder × List Value) :=
  match Placeholder.parse content with
  | .error fault => .error (.placeholder content fault)
  | .ok p =>
    match p.resolve b with
    | .error e => .error (.eval e)
    | .ok v => .ok (style.marker (seen.1.length + 1), seen.1 ++ [p], seen.2 ++ [v])

/-- The step of a scan that numbers the placeholders, in terms of what a content is bound to. -/
lemma number_eq (ps : List Placeholder) (vs : List Value) (content : Text) :
    number b style (ps, vs) content = (Placeholder.bound b content).map fun p =>
      (style.marker (ps.length + 1), ps ++ [p.1], vs ++ [p.2]) := by
  unfold number Placeholder.bound
  rcases Placeholder.parse content with fault | p
  · rfl
  · rcases hp : p.resolve b with e | v
    · simp [hp, Except.map]
    · simp [hp, Except.map]

/-- A scan that numbers the placeholders, from the middle of a text on. -/
lemma renderWith_number (ps : List Placeholder) (vs : List Value) (segments : List Segment) :
    Delimiters.renderWith (number b style) (ps, vs) segments =
      (assemblePieces b style ps.length segments).map fun (sql, bound) =>
        (sql, ps ++ bound.map (·.1), vs ++ bound.map (·.2)) := by
  induction segments generalizing ps vs with
  | nil => simp [Delimiters.renderWith, assemblePieces, Except.map]
  | cons segment rest ih =>
      cases segment with
      | literal s =>
          rw [Delimiters.renderWith, assemblePieces, ih]
          rcases assemblePieces b style ps.length rest with e | ⟨sql, bound⟩ <;> rfl
      | token content =>
          rw [Delimiters.renderWith, assemblePieces, number_eq]
          rcases Placeholder.bound b content with e | p
          · rfl
          · simp only [Except.map, Except.bind]
            rw [ih, List.length_append, List.length_singleton]
            rcases assemblePieces b style (ps.length + 1) rest with e | ⟨sql, bound⟩
            · rfl
            · simp [Except.map]

/-- **Assembling is one scan** whose handler keeps the placeholders and the values it has seen. -/
theorem assemble_eq_scanWith (sql : Text) :
    assemble sql b style =
      (Delimiters.placeholder.scanWith (number b style) ([], []) sql).map
        fun (sql, placeholders, parameters) =>
          { sql, placeholders, parameters, additional := b } := by
  rw [assemble, Delimiters.scanWith, renderWith_number, List.length_nil]
  rcases assemblePieces b style 0 (Delimiters.placeholder.segments sql) with e | ⟨sql, bound⟩ <;> rfl

/-- What is put down for the tokens of a text: what they say, and the values of that. -/
lemma forall₂_of_mapM_bound {tokens : List Text} {bound : List (Placeholder × Value)}
    (h : tokens.mapM (Placeholder.bound b) = .ok bound) :
    List.Forall₂ (fun t p => Placeholder.parse t = .ok p) tokens (bound.map (·.1)) ∧
      List.Forall₂ (fun p v => p.resolve b = .ok v) (bound.map (·.1)) (bound.map (·.2)) := by
  have hbound := mapM_eq_ok_iff.1 h
  clear h
  induction hbound with
  | nil => simp
  | cons hhead _ ih =>
      obtain ⟨hparse, hresolve⟩ := Placeholder.bound_eq_ok_iff.1 hhead
      exact ⟨.cons hparse ih.1, .cons hresolve ih.2⟩

/-- What a text is assembled to, token by token. -/
theorem of_assemble_eq_ok {sql : Text} {r : BoundSql} (h : assemble sql b style = .ok r) :
    List.Forall₂ (fun t p => Placeholder.parse t = .ok p)
        (Delimiters.placeholder.tokens sql) r.placeholders ∧
      List.Forall₂ (fun p v => p.resolve b = .ok v) r.placeholders r.parameters ∧
      r.sql = (Delimiters.placeholder.division sql).fill
        (style.markers 0 (Delimiters.placeholder.tokens sql).length) ∧
      r.additional = b := by
  rw [assemble_eq] at h
  rcases hmap : (Delimiters.placeholder.tokens sql).mapM (Placeholder.bound b) with e | bound
  · rw [hmap] at h
    cases h
  · rw [hmap] at h
    have hlen := (mapM_eq_ok_iff.1 hmap).length_eq
    obtain ⟨hparse, hresolve⟩ := forall₂_of_mapM_bound b hmap
    obtain rfl := Except.ok.inj h
    refine ⟨hparse, hresolve, ?_, rfl⟩
    rw [hlen]

/-- The bindings decide the values only: the text and what its placeholders say are the same under
all bindings for which it is assembled. -/
theorem assemble_independent {b' : Bindings} {sql : Text} {r r' : BoundSql}
    (h : assemble sql b style = .ok r) (h' : assemble sql b' style = .ok r') :
    r.sql = r'.sql ∧ r.placeholders = r'.placeholders := by
  obtain ⟨hparse, -, hsql, -⟩ := of_assemble_eq_ok b style h
  obtain ⟨hparse', -, hsql', -⟩ := of_assemble_eq_ok b' style h'
  have hunique : Relator.RightUnique fun t p => Placeholder.parse t = .ok p :=
    fun t p q hp hq => Except.ok.inj (hp.symm.trans hq)
  exact ⟨hsql.trans hsql'.symm, hunique.forall₂ hparse hparse'⟩

/-- **Markers, placeholders and values are aligned.** A text is assembled exactly if every
placeholder in it can be read and has a value. Then the placeholders and the values are listed in
the order of the tokens, the `i`-th token has become the `i`-th marker in the division that every
scan of the text fills, and the bindings are passed on. Otherwise the error is that of the first
token at fault, for which reading comes before the value. All this is one scan, whose handler
numbers what it has seen. -/
theorem assemble_aligned (sql : Text) :
    ((∃ r, assemble sql b style = .ok r) ↔
      ∀ t ∈ Delimiters.placeholder.tokens sql,
        ∃ p v, Placeholder.parse t = .ok p ∧ p.resolve b = .ok v) ∧
    (∀ r, assemble sql b style = .ok r →
      List.Forall₂ (fun t p => Placeholder.parse t = .ok p)
        (Delimiters.placeholder.tokens sql) r.placeholders ∧
      List.Forall₂ (fun p v => p.resolve b = .ok v) r.placeholders r.parameters ∧
      r.sql = (Delimiters.placeholder.division sql).fill
        ((List.range' 1 (Delimiters.placeholder.tokens sql).length).map style.marker) ∧
      r.additional = b) ∧
    (∀ e, assemble sql b style = .error e ↔
      ∃ before t after, Delimiters.placeholder.tokens sql = before ++ t :: after ∧
        (∀ t' ∈ before, ∃ p v, Placeholder.parse t' = .ok p ∧ p.resolve b = .ok v) ∧
        ((∃ fault, Placeholder.parse t = .error fault ∧ e = .placeholder t fault) ∨
          ∃ p cause, Placeholder.parse t = .ok p ∧ p.resolve b = .error cause ∧
            e = .eval cause)) ∧
    (∀ (ε : Type) (replace : Text → Except ε Text),
      Delimiters.placeholder.scan replace sql =
        ((Delimiters.placeholder.tokens sql).mapM replace).map
          (Delimiters.placeholder.division sql).fill) ∧
    assemble sql b style =
      (Delimiters.placeholder.scanWith (number b style) ([], []) sql).map
        fun (sql, placeholders, parameters) =>
          { sql, placeholders, parameters, additional := b } := by
  have hbound (t : Text) : (∃ pv, Placeholder.bound b t = .ok pv) ↔
      ∃ p v, Placeholder.parse t = .ok p ∧ p.resolve b = .ok v := by
    simp only [Prod.exists, Placeholder.bound_eq_ok_iff]
  have heq := assemble_eq b style sql
  refine ⟨?_, fun r hr => of_assemble_eq_ok b style hr, ?_,
    fun ε replace => Delimiters.scan_eq _ replace sql, assemble_eq_scanWith b style sql⟩
  · simp only [← hbound]
    rw [← exists_mapM_eq_ok_iff, heq]
    rcases (Delimiters.placeholder.tokens sql).mapM (Placeholder.bound b) with e | bound <;>
      simp [Except.map]
  · intro e
    simp only [← hbound, ← Placeholder.bound_eq_error_iff]
    rw [← mapM_eq_error_iff, heq]
    rcases (Delimiters.placeholder.tokens sql).mapM (Placeholder.bound b) with e' | bound <;>
      simp [Except.map]

/-! ## Assembling twice -/

/-- A text without tokens is assembled as it is. -/
lemma assemble_of_tokens_eq_nil {sql : Text} (hescape : '\\' ∉ sql)
    (h : Delimiters.placeholder.tokens sql = []) :
    assemble sql b style = .ok { sql, placeholders := [], parameters := [], additional := b } := by
  have hsame := Delimiters.placeholder.replaceAll_wrap hescape
  rw [Delimiters.replaceAll_eq, h, List.map_nil] at hsame
  rw [assemble_eq, h]
  change Except.ok (BoundSql.mk ((Delimiters.placeholder.division sql).fill []) [] [] b) = _
  rw [hsame]

/-- **No placeholder survives.** Without backslashes in the text, nothing in the assembled text
stands between the delimiters of a placeholder, neither in the text that was there nor together
with a marker. So it is assembled to itself, with any bindings and markers, and needs no
parameters. -/
theorem assemble_settled {sql : Text} {r : BoundSql} (hescape : '\\' ∉ sql)
    (h : assemble sql b style = .ok r) :
    (∀ content, ¬ Delimiters.placeholder.wrap content <:+: r.sql) ∧
      Delimiters.placeholder.tokens r.sql = [] ∧
      ∀ b' style', assemble r.sql b' style' =
        .ok { sql := r.sql, placeholders := [], parameters := [], additional := b' } := by
  obtain ⟨-, -, hsql, -⟩ := of_assemble_eq_ok b style h
  have hsettles : Delimiters.Settles '#' (Delimiters.placeholder.tokens sql)
      (style.markers 0 (Delimiters.placeholder.tokens sql).length) [] := by
    refine .of_inert (style.length_markers _ _) fun marker hmarker => ?_
    obtain ⟨position, -, rfl⟩ := List.mem_map.1 hmarker
    exact style.inert_marker position
  have hplain : '\\' ∉ r.sql := by
    rw [hsql]
    exact @Delimiters.not_mem_fill '#' _ _ _ hescape hsettles (by decide)
  have htokens : Delimiters.placeholder.tokens r.sql = [] := by
    rw [hsql]
    exact @Delimiters.tokens_fill '#' _ _ _ hescape hsettles (by decide)
  exact ⟨(Delimiters.placeholder.tokens_eq_nil_iff hplain).1 htokens, htokens,
    fun b' style' => assemble_of_tokens_eq_nil b' style' hplain htokens⟩

/-- A number sign before a marker, a brace behind one, and a placeholder that is left open. -/
theorem assemble_settled_braces :
    let sql : Text := "##\x7ba\x7d\x7bx\x7d #\x7bb:INT\x7d#\x7bc".toList
    '\\' ∉ sql ∧ ∃ r, assemble sql Table.empty .question = .ok r ∧
      r.sql = "#?\x7bx\x7d ?#\x7bc".toList ∧
      assemble r.sql Table.empty .colon =
        .ok { sql := r.sql, placeholders := [], parameters := [], additional := Table.empty } := by
  intro sql
  have hescape : '\\' ∉ sql := by decide
  have htokens : Delimiters.placeholder.tokens sql = ["a".toList, "b:INT".toList] := by
    decide +kernel
  have hsql : (Delimiters.placeholder.division sql).fill (MarkerStyle.question.markers 0 2) =
      "#?\x7bx\x7d ?#\x7bc".toList := by decide +kernel
  have hfirst : Placeholder.bound Table.empty "a".toList = .ok ({ property := "a".toList }, .null) :=
    Placeholder.bound_eq_ok_iff.2 ⟨by decide +kernel, rfl⟩
  have hsecond : Placeholder.bound Table.empty "b:INT".toList =
      .ok ({ property := "b".toList, jdbcType := some "INT".toList }, .null) :=
    Placeholder.bound_eq_ok_iff.2 ⟨by decide +kernel, rfl⟩
  obtain ⟨r, hr⟩ : ∃ r, assemble sql Table.empty .question = .ok r := by
    rw [assemble_eq, htokens, mapM_cons_of_ok hfirst, mapM_cons_of_ok hsecond]
    exact ⟨_, rfl⟩
  obtain ⟨-, -, hfill, -⟩ := of_assemble_eq_ok _ _ hr
  rw [htokens] at hfill
  obtain ⟨-, -, hagain⟩ := assemble_settled _ _ hescape hr
  exact ⟨hescape, r, hr, hfill.trans hsql, hagain _ _⟩

end BoundSql

end DynamicSql
