import DynamicSql.Proofs.Node.Loop
import DynamicSql.Proofs.Node.Renaming
import DynamicSql.Proofs.Node.Static

/-!
# Expanding a collection

A template that is one loop around text is followed through all stages: the collection is
evaluated, every element is bound to a name of its own, the placeholders of the text are renamed
to that name, the fragments are joined, and the placeholders of the whole are numbered and
evaluated when the alias is long gone. What comes out is the text once for every element, with
the markers numbered through, and the values that the placeholders have for the elements in turn
(`apply_loop`).
-/

namespace DynamicSql

open Delimiters

/-! ## The text -/

namespace MarkerStyle

variable (style : MarkerStyle)

/-- Renamed fragments in a row are marked as if they were one fragment, with the numbers going on. -/
lemma markedAll_renamed {l : Loop} {name s : Text} {references : List Reference}
    (hitem : l.item = some name) (hname : Text.isName name = true)
    (hs : RefersTo name s references) (position id count : Nat) :
    style.markedAll (position * references.length)
        ((List.range' id count).map (l.renameFragment · s)) =
      (List.range' position count).map fun k =>
        (placeholder.division s).fill (style.markers (k * references.length) references.length) := by
  induction count generalizing position id with
  | zero => rfl
  | succ count ih =>
      have hnext : position * references.length + references.length =
          (position + 1) * references.length := (Nat.succ_mul ..).symm
      rw [List.range'_succ, List.map_cons, markedAll, Loop.marked_renameFragment hitem hname hs,
        Loop.count_renameFragment hitem hname hs, hnext, ih, List.range'_succ, List.map_cons]

end MarkerStyle

namespace Loop

/-- The SQL text of a loop around text for so many elements: nothing for none, and else the
opening, the text once for each element with the separator in between, and the closing, in which
the placeholders have become markers that are numbered through. -/
def expansion (l : Loop) (style : MarkerStyle) (s : Text) (count : Nat) : Text :=
  let placeholders := (placeholder.tokens s).length
  if count = 0 then []
  else
    Fragment.join (l.opening.toList ++
      Fragment.spread l.separator ((List.range count).map fun k =>
        (placeholder.division s).fill (style.markers (k * placeholders) placeholders)) ++
      l.closing.toList)

section written

variable {l : Loop} {name s : Text} {references : List Reference}
  (hitem : l.item = some name) (hname : Text.isName name = true)
  (hs : RefersTo name s references)
  (hplain : ∀ t ∈ l.opening.toList ++ l.separator.toList ++ l.closing.toList,
    Text.cut? placeholder.opening t = none)

include hitem hname hs hplain

/-- What a loop around text writes leaves no token open, and markers do not change its ends. -/
lemma steady_of_mem_written (id count : Nat) :
    ∀ f ∈ l.opening.toList ++ l.written s id count ++ l.closing.toList,
      placeholder.Terminated f ∧ MarkerStyle.Steady f := by
  have hsteady (t : Text) (h : Text.cut? placeholder.opening t = none) :
      placeholder.Terminated t ∧ MarkerStyle.Steady t :=
    ⟨.plain h, fun style before => by rw [style.marked_of_none h]⟩
  simp only [List.mem_append] at hplain ⊢
  rintro f ((hf | hf) | hf)
  · exact hsteady f (hplain f (.inl (.inl hf)))
  · rcases Fragment.mem_spread hf with hf | hf
    · exact hsteady f (hplain f (.inl (.inr (Option.mem_toList.2 hf))))
    · obtain ⟨k, -, rfl⟩ := List.mem_map.1 hf
      exact ⟨(division_renameFragment hitem hname hs k).2, steady_renameFragment hitem hname hs k⟩
  · exact hsteady f (hplain f (.inr hf))

/-- The text of a loop around text, with markers. -/
theorem marked_written (style : MarkerStyle) {count : Nat} (hcount : count ≠ 0) :
    style.marked 0 (Fragment.join (l.opening.toList ++ l.written s 0 count ++ l.closing.toList)) =
      l.expansion style s count := by
  have hsteady := steady_of_mem_written hitem hname hs hplain 0 count
  simp only [List.mem_append] at hplain
  have hrenamed := style.markedAll_renamed hitem hname hs 0 0 count
  rw [Nat.zero_mul] at hrenamed
  have hlen : (placeholder.tokens s).length = references.length := by
    rw [hs.tokens, List.length_map]
  rw [(style.marked_join 0 hsteady).1, style.markedAll_append, style.markedAll_append,
    style.markedAll_of_none fun t ht => hplain t (.inl (.inl ht)),
    style.markedAll_of_none fun t ht => hplain t (.inr ht),
    MarkerStyle.flatMap_tokens_of_none fun t ht => hplain t (.inl (.inl ht)), written,
    style.markedAll_spread fun t ht => hplain t (.inl (.inr (Option.mem_toList.2 ht))),
    List.length_nil, Nat.add_zero, hrenamed, expansion, if_neg hcount, hlen, List.range_eq_range']

/-- The placeholders of a loop around text refer to the names of the entries, in order. -/
theorem tokens_written (id count : Nat) :
    placeholder.tokens
        (Fragment.join (l.opening.toList ++ l.written s id count ++ l.closing.toList)) =
      (List.range' id count).flatMap fun k =>
        references.map (·.content (syntheticName name k)) := by
  have hnone (t : Text) (h : Text.cut? placeholder.opening t = none) :
      placeholder.tokens t = [] := List.length_eq_zero_iff.1 (MarkerStyle.count_of_none h)
  have hsteady := steady_of_mem_written hitem hname hs hplain id count
  simp only [List.mem_append] at hplain
  rw [Fragment.tokens_join Fragment.keptApart_placeholder fun f hf => (hsteady f hf).1,
    List.flatMap_append, List.flatMap_append,
    MarkerStyle.flatMap_tokens_of_none fun t ht => hplain t (.inl (.inl ht)),
    MarkerStyle.flatMap_tokens_of_none fun t ht => hplain t (.inr ht), written,
    Fragment.flatMap_spread fun t ht =>
      hnone t (hplain t (.inl (.inr (Option.mem_toList.2 ht)))), List.flatMap_map,
    List.nil_append, List.append_nil]
  simp only [tokens_renameFragment hitem hname hs]

end written

/-! ## The values -/

/-- The values of the placeholders are those that the references lead to from the elements. -/
theorem mapM_bound {name : Text} {references : List Reference} {b : Bindings} {vs : List Value}
    {id : Nat} (hname : Text.isName name = true)
    (hvalid : ∀ r ∈ references, r.isValid name = true)
    (hb : ∀ entry ∈ vs.zipIdx id, b.get? (syntheticName name entry.2) = some entry.1) :
    (((List.range' id vs.length).flatMap fun k =>
        references.map (·.content (syntheticName name k))).mapM fun t =>
          (Placeholder.bound b t).map (·.2)) =
      ((vs.mapM fun v => references.mapM (Reference.valueIn v)).map List.flatten).mapError
        .eval := by
  have hentry : ∀ entry ∈ vs.zipIdx id,
      ((references.map (·.content (syntheticName name entry.2))).mapM fun t =>
          (Placeholder.bound b t).map (·.2)) =
        (references.mapM (Reference.valueIn entry.1)).mapError SqlError.eval := by
    intro entry hentry
    rw [List.mapM_map, ← mapM_mapError]
    exact mapM_congr fun r hr => Reference.bound_content
      (isIdentifier_syntheticName hname entry.2) hname (hvalid r hr) (hb entry hentry)
  have hvalues : ((vs.zipIdx id).mapM fun entry =>
      references.mapM (Reference.valueIn entry.1)) =
        vs.mapM fun v => references.mapM (Reference.valueIn v) := by
    conv_rhs => rw [← List.zipIdx_map_fst id vs, List.mapM_map]
    rfl
  rw [← List.zipIdx_map_snd id vs, List.flatMap_map, mapM_flatMap, mapM_congr hentry,
    mapM_mapError, hvalues]
  rcases vs.mapM fun v => references.mapM (Reference.valueIn v) with e | rows <;> rfl

end Loop

/-! ## The collection -/

/-- At the start of a call a name that is not reserved stands for a field of the parameter. -/
lemma Bindings.value_ofCall {name : Text} (hparameter : name ≠ parameterName)
    (hdatabase : name ≠ databaseName) (fields : List (Text × Value)) (database : Option Text) :
    (ofCall (.object fields) database).value name = (Value.field? fields name).getD .null := by
  have hfree : (ofCall (.object fields) database).get? name = none := by
    unfold ofCall
    rw [Table.get?_insert, if_neg hdatabase, Table.get?_insert, if_neg hparameter,
      Table.get?_empty]
  have hobject : (ofCall (.object fields) database).parameter = .object fields := by
    unfold parameter ofCall
    rw [Table.get?_insert, if_neg (by decide), Table.get?_insert, if_pos rfl]
    rfl
  rw [value, find?, hfree, Option.none_or, parameterField?, hobject]

/-- The entries of a collection that is a field of the parameter. -/
lemma Bindings.evalEntries_ofCall {name : Text} {fields : List (Text × Value)} {vs : List Value}
    (hname : isIdentifier name = true) (hparameter : name ≠ parameterName)
    (hdatabase : name ≠ databaseName) (hvs : Value.field? fields name = some (.array vs))
    (database : Option Text) :
    (ofCall (.object fields) database).evalEntries name = .ok (Entry.ofItems 0 vs) := by
  have hvalue := value_ofCall hparameter hdatabase fields database
  have heval := @eval_path (ofCall (.object fields) database) name [] hname rfl
  rw [Path.text, List.flatMap_nil, List.append_nil, hvalue, hvs] at heval
  rw [evalEntries, heval]
  rfl

/-! ## All stages -/

namespace Template

/-- A template whose run succeeds is applied by assembling what the run has written. -/
lemma apply_of_run {t : Template} {parameter : Value} {written : List Text} {env : Env}
    {result : Bool} (h : t.root.run ⟨Bindings.ofCall parameter t.database, 0⟩ =
      ⟨written, env, .ok result⟩) :
    t.apply parameter = BoundSql.assemble (Fragment.join written) env.bindings t.style := by
  rw [apply, render, h]
  rfl

/-- **A collection is expanded element by element.** Let a template be a loop with an alias over a
list that is a field of the parameter, around text without substitutions and backslashes whose
placeholders all end and follow valid paths from the alias, perhaps with types and attributes; let
opening, closing and separator be without placeholders. Then the parameters are the values that
the paths of the placeholders lead to from each element in turn, and the SQL text is the expansion
of the loop: nothing if there are no elements, and else the opening, the text once for every
element, with the separator in between, and the closing, joined, with the markers numbered through.
If a path leads nowhere, the error is that of the first one, by elements and then by
placeholders. -/
theorem apply_loop {l : Loop} {name body : Text} {references : List Reference}
    {fields : List (Text × Value)} {vs : List Value}
    (hcollection : isIdentifier l.collection = true)
    (hparameter : l.collection ≠ Bindings.parameterName)
    (hdatabase : l.collection ≠ Bindings.databaseName)
    (hvs : Value.field? fields l.collection = some (.array vs))
    (hitem : l.item = some name) (hindex : l.index = none) (hname : Text.isName name = true)
    (hplain : ∀ t ∈ l.opening.toList ++ l.separator.toList ++ l.closing.toList,
      ¬ placeholder.opening <:+: t)
    (hstatic : ¬ substitution.opening <:+: body) (hbody : RefersTo name body references)
    (filter : Option Pattern) (style : MarkerStyle) (database : Option Text) :
    (apply ⟨.loop l (.text body filter), style, database⟩ (.object fields)).map
        (fun r => (r.sql, r.parameters)) =
      ((vs.mapM fun v => references.mapM (Reference.valueIn v)).mapError .eval).map
        fun rows => (l.expansion style body vs.length, rows.flatten) := by
  have hentries := Bindings.evalEntries_ofCall hcollection hparameter hdatabase hvs database
  have hstatic' : Node.isDynamicText body = false := by
    rw [Node.isDynamicText, hasToken, tokens, segments_of_none (Text.cut?_eq_none_iff.2 hstatic)]
    rfl
  simp only [← Text.cut?_eq_none_iff] at hplain
  by_cases hne : vs = []
  · subst hne
    have hrun : (Node.loop l (.text body filter)).run
        ⟨Bindings.ofCall (.object fields) database, 0⟩ = _ := Loop.run_nil hentries 0
    have hnone : placeholder.tokens [] = [] :=
      List.length_eq_zero_iff.1 (MarkerStyle.count_of_none rfl)
    rw [apply_of_run hrun, style.map_assemble, Fragment.join_nil, hnone, style.marked_of_none rfl]
    rfl
  · have hrun : (Node.loop l (.text body filter)).run
        ⟨Bindings.ofCall (.object fields) database, 0⟩ = _ :=
      Loop.run_text hitem hindex (Node.runText_of_static hstatic' filter)
        (Loop.allBlank_renameFragment hitem hname hbody) hentries hne 0
    have hb : ∀ entry ∈ vs.zipIdx 0,
        ((Loop.bindEntries name (Bindings.ofCall (.object fields) database) 0 vs).erase name).get?
          (syntheticName name entry.2) = some entry.1 := by
      intro entry hentry
      rw [Table.get?_erase, if_neg (ne_syntheticName name entry.2).symm]
      exact Loop.get?_bindEntries name _ 0 vs entry hentry
    have hcount : vs.length ≠ 0 := fun h => hne (List.length_eq_zero_iff.1 h)
    rw [apply_of_run hrun, style.map_assemble, Loop.tokens_written hitem hname hbody hplain,
      Loop.mapM_bound hname hbody.valid hb, Loop.marked_written hitem hname hbody hplain style hcount]
    rcases vs.mapM fun v => references.mapM (Reference.valueIn v) with e | rows <;> rfl

/-- Two rows are inserted, each by two placeholders. -/
theorem apply_loop_insert :
    let l : Loop :=
      { collection := "rows".toList
        item := some "row".toList
        opening := some "INSERT INTO t VALUES".toList
        closing := some "RETURNING id".toList
        separator := some ",".toList }
    let body : Text := "(#\x7brow.id\x7d, #\x7brow.tags[1],jdbcType=VARCHAR\x7d)".toList
    let references : List Reference :=
      [⟨[.field "id".toList], []⟩,
        ⟨[.field "tags".toList, .index false "1".toList], ",jdbcType=VARCHAR".toList⟩]
    let row (id : Int64) (tag : Value) : Value :=
      .object [("id".toList, .integer id), ("tags".toList, .array [.null, tag])]
    let rows := [row 7 (.string "x".toList), row 8 (.boolean true)]
    isIdentifier l.collection = true ∧ RefersTo "row".toList body references ∧
      (apply ⟨.loop l (.text body none), .dollar, none⟩
          (.object [("rows".toList, .array rows)])).map (fun r => (r.sql, r.parameters)) =
        .ok ("INSERT INTO t VALUES ($1, $2),($3, $4) RETURNING id".toList,
          [.integer 7, .string "x".toList, .integer 8, .boolean true]) := by
  intro l body references row rows
  have hcollection : isIdentifier l.collection = true := by decide +kernel
  have hcut : Text.cut? placeholder.opening body = some ("(".toList,
      "row.id\x7d, #\x7brow.tags[1],jdbcType=VARCHAR\x7d)".toList) := by decide +kernel
  have hcontent : placeholder.content? "row.id\x7d, #\x7brow.tags[1],jdbcType=VARCHAR\x7d)".toList =
      some ("row.id".toList, ", #\x7brow.tags[1],jdbcType=VARCHAR\x7d)".toList) := by decide +kernel
  have hcut' : Text.cut? placeholder.opening ", #\x7brow.tags[1],jdbcType=VARCHAR\x7d)".toList =
      some (", ".toList, "row.tags[1],jdbcType=VARCHAR\x7d)".toList) := by decide +kernel
  have hcontent' : placeholder.content? "row.tags[1],jdbcType=VARCHAR\x7d)".toList =
      some ("row.tags[1],jdbcType=VARCHAR".toList, ")".toList) := by decide +kernel
  have hbody : RefersTo "row".toList body references :=
    { escape := by decide +kernel
      terminated := .token hcut rfl hcontent (.token hcut' rfl hcontent' (.plain rfl))
      tokens := by decide +kernel
      nonempty := by decide
      valid := by decide +kernel }
  have hexpansion : l.expansion .dollar body 2 =
      "INSERT INTO t VALUES ($1, $2),($3, $4) RETURNING id".toList := by decide +kernel
  have hvalues : (rows.mapM fun v => references.mapM (Reference.valueIn v)) =
      .ok [[.integer 7, .string "x".toList], [.integer 8, .boolean true]] := rfl
  refine ⟨hcollection, hbody, ?_⟩
  rw [@apply_loop l "row".toList body references [("rows".toList, .array rows)] rows hcollection
    (by decide +kernel) (by decide +kernel) rfl rfl rfl (by decide +kernel) (by decide +kernel)
    (by decide +kernel) hbody none .dollar none, hvalues]
  exact congrArg (fun sql => Except.ok (sql, _)) hexpansion

end Template

end DynamicSql
