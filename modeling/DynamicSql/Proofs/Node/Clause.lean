import DynamicSql.Proofs.Node.Trim

/-!
# Clauses without a body

A blank body makes no clause, but whether a body is blank is asked before overrides are removed. The
overrides of a `WHERE` clause all end in white space, so they never are all of a trimmed body, and
what is left of it ends as the body does. The comma is an override of both ends of a `SET` clause,
and can leave nothing.

* `apply_setClause`: what a `SET` clause makes of a body that is more than one comma.
* `filled_unless_commas`: a keyword stands before something in every clause, except in a `SET`
  clause of one or two commas with white space in between.
-/

namespace DynamicSql.TrimRule

open Text (allBlank endsSolid trim upperAscii)

/-- Whether a text is empty, or the keyword with more than white space behind it. -/
def Filled (keyword out : Text) : Prop :=
  out = [] ∨ ∃ rest, out = keyword ++ ' ' :: rest ∧ allBlank rest = false

variable {body core s : Text}

/-! ## Overrides that end in white space -/

/-- The span at the start ends as one of the overrides, if it is not empty. -/
lemma endsSolid_leadSpan {overrides : List Text}
    (h : ∀ override ∈ overrides, endsSolid override = false) (s : Text) :
    endsSolid (leadSpan overrides s) = false := by
  unfold leadSpan
  cases hfind : (overrides.filter (!·.isEmpty)).findSome? (startSpan? s) with
  | none => rfl
  | some span =>
      obtain ⟨override, hmem, hspan⟩ := List.exists_of_findSome?_eq_some hfind
      unfold startSpan? at hspan
      split at hspan
      · next hupper =>
        obtain rfl := Option.some.inj hspan
        rw [Option.getD_some, ← Text.endsSolid_upperAscii, hupper, Text.endsSolid_upperAscii]
        exact h override (List.mem_of_mem_filter hmem)
      · cases hspan

/-- Overrides that end in white space leave something of every text that does not. -/
lemma endsSolid_drop_leadSpan {overrides : List Text}
    (h : ∀ override ∈ overrides, endsSolid override = false) (hs : endsSolid s = true) :
    endsSolid (s.drop (leadSpan overrides s).length) = true := by
  have hsplit : leadSpan overrides s ++ s.drop (leadSpan overrides s).length = s :=
    List.prefix_iff_eq_append.1 (isPrefix_leadSpan overrides s)
  have hwhole := hs
  rw [← hsplit] at hwhole
  refine Text.endsSolid_of_append hwhole fun hnil => ?_
  rw [hnil, List.append_nil] at hsplit
  have hspan := endsSolid_leadSpan h s
  rw [hsplit, hs] at hspan
  cases hspan

lemma normalized_whereClause : whereClause.normalized = whereClause := by decide

/-- A `WHERE` clause is empty or filled. -/
lemma filled_whereClause (body : Text) : Filled "WHERE".toList (whereClause.apply body) := by
  by_cases h : trim body = []
  · exact .inl (apply_of_blank whereClause h)
  · have hoverrides : ∀ override ∈ whereClause.leadOverrides, endsSolid override = false := by
      decide
    have happly := apply_normalized whereClause h
    rw [normalized_whereClause] at happly
    refine .inr ⟨_, happly.trans (dropBytes_zero _), ?_⟩
    apply Text.allBlank_of_endsSolid
    exact endsSolid_drop_leadSpan hoverrides (Text.endsSolid_trim h)

/-! ## Commas at both ends -/

/-- The comma at an end, if there is one. -/
def commaOf (c? : Option Char) : Text := if c? = some ',' then [','] else []

lemma leadSpan_comma (s : Text) : leadSpan [[',']] s = commaOf s.head? := by
  cases s with
  | nil => rfl
  | cons c s =>
      by_cases h : c = ','
      · subst h
        rfl
      · have hupper : upperAscii [c] ≠ upperAscii [','] := fun heq =>
          h (Text.toUpper_eq_comma_iff.1 (List.cons.inj heq).1)
        simp [leadSpan, startSpan?, commaOf, hupper, h]

lemma tailSpan_comma (s : Text) : tailSpan [[',']] s = commaOf s.getLast? := by
  have hloose : looseEndSpan? s [','] = endSpan? s [','] := by
    have htrim : trim [','] = [','] := by decide
    rw [looseEndSpan?, htrim, if_neg (List.cons_ne_nil _ _), Option.or_self]
  have htail : tailSpan [[',']] s = (endSpan? s [',']).getD [] := by
    simp [tailSpan, hloose]
  rw [htail, endSpan?]
  rcases List.eq_nil_or_concat s with rfl | ⟨s, c, rfl⟩
  · rfl
  · by_cases h : c = ','
    · subst h
      simp [commaOf]
    · have hupper : upperAscii [c] ≠ upperAscii [','] := fun heq =>
        h (Text.toUpper_eq_comma_iff.1 (List.cons.inj heq).1)
      simp [commaOf, hupper, h]

/-- A text that is more than a comma is a core with the commas at its ends. -/
lemma exists_core (h : s ≠ [',']) : ∃ core, s = commaOf s.head? ++ core ++ commaOf s.getLast? := by
  obtain ⟨t, ht⟩ : ∃ t, s = commaOf s.head? ++ t := by
    cases s with
    | nil => exact ⟨[], rfl⟩
    | cons c s =>
        by_cases hc : c = ','
        · exact ⟨s, by simp [commaOf, hc]⟩
        · exact ⟨c :: s, by simp [commaOf, hc]⟩
  suffices hcore : ∃ core, t = core ++ commaOf s.getLast? by
    obtain ⟨core, hcore⟩ := hcore
    exact ⟨core, by rw [List.append_assoc, ← hcore, ← ht]⟩
  by_cases hlast : s.getLast? = some ','
  · have hne : t ≠ [] := by
      rintro rfl
      rw [List.append_nil] at ht
      unfold commaOf at ht
      split at ht
      · exact h ht
      · rw [ht] at hlast
        cases hlast
    have htlast : t.getLast? = some ',' := by
      rw [ht, List.getLast?_append_of_ne_nil _ hne] at hlast
      exact hlast
    rw [commaOf, if_pos hlast]
    exact List.getLast?_eq_some_iff.1 htlast
  · exact ⟨t, by rw [commaOf, if_neg hlast, List.append_nil]⟩

lemma normalized_setClause : setClause.normalized = setClause := by decide

/-- **A comma goes at each end** of the body of a `SET` clause, and the keyword is put before what
is left. -/
theorem apply_setClause (h : trim body ≠ [])
    (hcore : trim body = commaOf (trim body).head? ++ core ++ commaOf (trim body).getLast?) :
    setClause.apply body = "SET ".toList ++ core := by
  rw [← leadSpan_comma, ← tailSpan_comma] at hcore
  have happly := apply_of_split setClause h hcore
  rw [normalized_setClause] at happly
  exact happly

/-- Of one comma only the keyword is left: the comma is dropped at the start, and at the end the
space behind the keyword is cut off for it. -/
lemma apply_setClause_comma (h : trim body = [',']) : setClause.apply body = "SET".toList := by
  have hne : trim body ≠ [] := by
    rw [h]
    exact List.cons_ne_nil _ _
  have happly := apply_normalized setClause hne
  rw [normalized_setClause, h] at happly
  rw [happly]
  decide

/-! ## Clauses -/

/-- Whether a text is one comma, or two with white space in between. -/
def OnlyCommas (s : Text) : Prop :=
  s = [','] ∨ ∃ blanks, allBlank blanks = true ∧ s = ',' :: (blanks ++ [','])

/-- What is between the commas of a body is more than white space, unless there are only commas. -/
lemma onlyCommas_of_allBlank (h : trim body ≠ [])
    (hcore : trim body = commaOf (trim body).head? ++ core ++ commaOf (trim body).getLast?)
    (hblank : allBlank core = true) : OnlyCommas (trim body) := by
  by_cases hfirst : (trim body).head? = some ','
  · by_cases hlast : (trim body).getLast? = some ','
    · exact .inr ⟨core, hblank, by simpa [commaOf, hfirst, hlast] using hcore⟩
    · have hs : trim body = [','] ++ core := by simpa [commaOf, hfirst, hlast] using hcore
      by_cases hne : core = []
      · exact .inl (by rw [hs, hne, List.append_nil])
      · have hsolid := Text.endsSolid_trim h
        rw [hs] at hsolid
        have hcontent := Text.allBlank_of_endsSolid (Text.endsSolid_of_append hsolid hne)
        rw [hblank] at hcontent
        cases hcontent
  · have hs : trim body = core ++ commaOf (trim body).getLast? := by
      simpa [commaOf, hfirst] using hcore
    cases core with
    | nil =>
        left
        unfold commaOf at hs
        split at hs
        · exact hs
        · exact absurd hs h
    | cons c rest =>
        have hsolid : Text.isBlank c = false := by
          apply Text.isBlank_of_mem_head?_trim
          rw [hs]
          rfl
        rw [allBlank, List.all_cons, hsolid] at hblank
        cases hblank

/-- A keyword with nothing but white space behind it is not filled. -/
lemma not_filled_of_allBlank {blanks : Text} (h : allBlank blanks = true) (keyword : Text) :
    ¬ Filled keyword (keyword ++ ' ' :: blanks) := by
  rintro (hnil | ⟨rest, hrest, hcontent⟩)
  · simp at hnil
  · obtain rfl : blanks = rest := by simpa using hrest
    rw [h] at hcontent
    cases hcontent

/-- **No clause is without a body, unless the body has commas only.** A `WHERE` clause is empty, or
there is more than white space behind its keyword. So is a `SET` clause, if the trimmed body is not
one comma or two with white space in between. Of one comma the keyword is left without a space, and
of two the keyword and what is between them. -/
theorem filled_unless_commas (body : Text) :
    Filled "WHERE".toList (whereClause.apply body) ∧
      (Filled "SET".toList (setClause.apply body) ↔ ¬ OnlyCommas (trim body)) ∧
      (trim body = [','] → setClause.apply body = "SET".toList) ∧
      ∀ core, trim body = ',' :: (core ++ [',']) →
        setClause.apply body = "SET ".toList ++ core := by
  have hcommas (core : Text) (hs : trim body = ',' :: (core ++ [','])) :
      setClause.apply body = "SET ".toList ++ core := by
    have hlast : (',' :: (core ++ [','])).getLast? = some ',' := by
      rw [← List.cons_append, List.getLast?_concat]
    apply apply_setClause
    · rw [hs]
      exact List.cons_ne_nil _ _
    · rw [hs, hlast]
      simp [commaOf]
  refine ⟨filled_whereClause body, ⟨?_, fun honly => ?_⟩, apply_setClause_comma, hcommas⟩
  · rintro hfilled (hcomma | ⟨blanks, hblank, hs⟩)
    · rw [apply_setClause_comma hcomma] at hfilled
      rcases hfilled with hnil | ⟨rest, hrest, -⟩
      · cases hnil
      · simp at hrest
    · rw [hcommas blanks hs] at hfilled
      exact not_filled_of_allBlank hblank "SET".toList hfilled
  · by_cases h : trim body = []
    · exact .inl (apply_of_blank setClause h)
    · obtain ⟨core, hcore⟩ := exists_core fun hcomma => honly (.inl hcomma)
      refine .inr ⟨core, apply_setClause h hcore, ?_⟩
      rw [← Bool.not_eq_true]
      exact fun hblank => honly (onlyCommas_of_allBlank h hcore hblank)

/-- Two commas make a `SET` clause without a body. -/
theorem not_filled_commas :
    ¬ ∀ body : Text, Filled "WHERE".toList (whereClause.apply body) ∧
      Filled "SET".toList (setClause.apply body) := by
  intro h
  have happly : setClause.apply ",,".toList = "SET".toList ++ ' ' :: [] := by decide
  have hfilled := (h ",,".toList).2
  rw [happly] at hfilled
  exact not_filled_of_allBlank rfl "SET".toList hfilled

end DynamicSql.TrimRule
