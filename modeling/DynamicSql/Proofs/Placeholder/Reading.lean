import DynamicSql.Placeholder
import DynamicSql.Proofs.Text.Span

/-!
# What a placeholder says

A content is read from left to right: the property, which holds neither white space nor what may
follow it here, and then what stands behind it. The property has no part in how the rest is read
(`parse_append`), so a content that is read with one property is read with every other in its
place.
-/

namespace DynamicSql.Placeholder

/-! ## The property -/

/-- Whether a character may stand anywhere in a property without parentheses and white space. -/
def isSolid (c : Char) : Bool := !Text.isBlank c && !endsProperty c

/-- A character that ends a property is no white space. -/
lemma isBlank_of_endsProperty {c : Char} (h : endsProperty c = true) : Text.isBlank c = false := by
  rw [endsProperty, Bool.or_eq_true, beq_iff_eq, beq_iff_eq] at h
  rcases h with rfl | rfl <;> rfl

/-- White space ends no property. -/
lemma endsProperty_of_isBlank {c : Char} (h : Text.isBlank c = true) : endsProperty c = false := by
  rw [← Bool.not_eq_true]
  intro hends
  rw [isBlank_of_endsProperty hends] at h
  cases h

section property

variable {property behind : Text}

/-- A solid property has no white space at its start. -/
lemma trimStart_solid (hne : property ≠ []) (hsolid : property.all isSolid = true) (s : Text) :
    Text.trimStart (property ++ s) = property ++ s := by
  obtain ⟨c, property, rfl⟩ := List.exists_cons_of_ne_nil hne
  rw [List.all_cons, Bool.and_eq_true, isSolid, Bool.and_eq_true, Bool.not_eq_true'] at hsolid
  exact Text.trimStart_cons hsolid.1.1 _

/-- A solid property has no white space at its end. -/
lemma trimEnd_solid (hsolid : property.all isSolid = true) : Text.trimEnd property = property := by
  refine Text.trimEnd_of_getLast? fun c hc => ?_
  have hc := List.all_eq_true.1 hsolid c (List.mem_of_getLast? hc)
  rw [isSolid, Bool.and_eq_true, Bool.not_eq_true'] at hc
  exact hc.1

/-- What is left of a content behind its property: white space, if something follows it. -/
lemma trim_append (hne : property ≠ []) (hsolid : property.all isSolid = true)
    (hbehind : ∀ c ∈ (Text.trimStart behind).head?, endsProperty c = true) :
    ∃ blanks : Text, blanks.all Text.isBlank = true ∧
      Text.trim (property ++ behind) = property ++ blanks ++ Text.trim behind ∧
        ∀ c ∈ (Text.trim behind).head?, endsProperty c = true := by
  obtain ⟨blanks, hblanks, heq⟩ := Text.exists_append_trimStart behind
  rw [Text.trim, Text.trim, trimStart_solid hne hsolid]
  rcases hcore : Text.trimStart behind with _ | ⟨c, core⟩
  · rw [hcore, List.append_nil] at heq
    refine ⟨[], rfl, ?_, ?_⟩
    · rw [heq, Text.trimEnd_append, if_pos (Text.trimEnd_of_all_isBlank hblanks),
        trimEnd_solid hsolid, List.append_nil, Text.trimEnd_of_all_isBlank rfl, List.append_nil]
    · rintro c ⟨⟩
  · rw [hcore] at heq hbehind
    have hc := isBlank_of_endsProperty (hbehind c rfl)
    have htrim := Text.trimEnd_cons hc core
    have hne' : Text.trimEnd (c :: core) ≠ [] := by
      rw [htrim]
      exact List.cons_ne_nil _ _
    have hblank' : Text.trimEnd (blanks ++ c :: core) = blanks ++ Text.trimEnd (c :: core) := by
      rw [Text.trimEnd_append, if_neg hne']
    refine ⟨blanks, hblanks, ?_, ?_⟩
    · rw [heq, Text.trimEnd_append, hblank', if_neg, List.append_assoc]
      exact fun h => hne' (List.append_eq_nil_iff.1 h).2
    · rw [htrim]
      exact hbehind

/-- A property without parentheses goes up to the first character that ends one. -/
lemma splitProperty_of_trim {content s : Text} (htrim : Text.trim content = s)
    (hparen : s.head? ≠ some '(') :
    splitProperty content =
      if (Text.trim (s.takeWhile (!endsProperty ·))).isEmpty then .error .missingProperty
      else .ok (Text.trim (s.takeWhile (!endsProperty ·)), s.dropWhile (!endsProperty ·)) := by
  unfold splitProperty
  rw [htrim]
  split
  · exact absurd rfl hparen
  · rfl

/-- A property is split off in front of what ends it. -/
lemma splitProperty_of_span {content s rest : Text} (htrim : Text.trim content = s ++ rest)
    (hs : s.all (!endsProperty ·) = true) (hparen : s.head? ≠ some '(')
    (hrest : ∀ c ∈ rest.head?, endsProperty c = true) :
    splitProperty content =
      if (Text.trim s).isEmpty then .error .missingProperty else .ok (Text.trim s, rest) := by
  have hstop : ∀ c ∈ rest.head?, (!endsProperty c) = false := by
    intro c hc
    rw [hrest c hc]
    rfl
  have hfirst : (s ++ rest).head? ≠ some '(' := by
    cases s with
    | nil => exact fun h => absurd (hrest '(' h) (by decide)
    | cons c s => exact hparen
  rw [splitProperty_of_trim htrim hfirst, Text.takeWhile_span hs hstop,
    Text.dropWhile_span hs hstop]

/-- **A property is split off** in front of attributes, and in front of nothing but white space. -/
theorem splitProperty_append (hne : property ≠ []) (hsolid : property.all isSolid = true)
    (hparen : property.head? ≠ some '(')
    (hbehind : ∀ c ∈ (Text.trimStart behind).head?, endsProperty c = true) :
    splitProperty (property ++ behind) = .ok (property, Text.trim behind) := by
  obtain ⟨blanks, hblanks, htrim, hrest⟩ := trim_append hne hsolid hbehind
  have hall : (property ++ blanks).all (!endsProperty ·) = true := by
    rw [List.all_append, Bool.and_eq_true]
    constructor
    · refine List.all_eq_true.2 fun c hc => ?_
      have hc := List.all_eq_true.1 hsolid c hc
      rw [isSolid, Bool.and_eq_true] at hc
      exact hc.2
    · refine List.all_eq_true.2 fun c hc => ?_
      rw [endsProperty_of_isBlank (List.all_eq_true.1 hblanks c hc)]
      rfl
  have hproperty : Text.trim (property ++ blanks) = property := by
    rw [Text.trim, trimStart_solid hne hsolid, Text.trimEnd_append,
      if_pos (Text.trimEnd_of_all_isBlank hblanks), trimEnd_solid hsolid]
  have hfirst : (property ++ blanks).head? ≠ some '(' := by
    obtain ⟨c, property, rfl⟩ := List.exists_cons_of_ne_nil hne
    exact hparen
  rw [splitProperty_of_span htrim hall hfirst hrest, hproperty, if_neg]
  rw [List.isEmpty_iff]
  exact hne

end property

/-! ## What stands behind the property -/

/-- What a content says that has a property, and then the given text. -/
def readBehind (property rest : Text) : Except PlaceholderFault Placeholder := do
  let (jdbcType, rest) ← splitType rest
  let attributes ← splitAttributes rest
  readAttributes { property, jdbcType } attributes

/-- The placeholder with another property. -/
def withProperty (property : Text) (p : Placeholder) : Placeholder := { p with property }

/-- Attributes do not look at the property. -/
lemma setAttribute_withProperty (property name value : Text) (p : Placeholder) :
    (p.withProperty property).setAttribute name value =
      (p.setAttribute name value).map (withProperty property) := by
  unfold setAttribute
  repeat' split
  all_goals rfl

/-- Several attributes do not look at the property. -/
lemma readAttributes_withProperty (property : Text) (p : Placeholder) (pairs : List Text) :
    (p.withProperty property).readAttributes pairs =
      (p.readAttributes pairs).map (withProperty property) := by
  induction pairs generalizing p with
  | nil => rfl
  | cons pair rest ih =>
      have hpair : (p.withProperty property).readAttribute pair =
          (p.readAttribute pair).map (withProperty property) := by
        unfold readAttribute
        split
        · rfl
        · exact setAttribute_withProperty property _ _ p
      rw [readAttributes, readAttributes, hpair]
      rcases p.readAttribute pair with fault | q
      · rfl
      · exact ih q

/-- The property has no part in how the rest is read. -/
theorem readBehind_eq (property other rest : Text) :
    readBehind property rest = (readBehind other rest).map (withProperty property) := by
  unfold readBehind
  rcases splitType rest with fault | ⟨jdbcType, rest⟩
  · rfl
  · simp only [bind, Except.bind]
    rcases splitAttributes rest with fault | attributes
    · rfl
    · exact readAttributes_withProperty property { property := other, jdbcType } attributes

/-- **A content is read as its property and what stands behind it.** -/
theorem parse_append {property behind : Text} (hne : property ≠ [])
    (hsolid : property.all isSolid = true) (hparen : property.head? ≠ some '(')
    (hbehind : ∀ c ∈ (Text.trimStart behind).head?, endsProperty c = true) :
    parse (property ++ behind) = readBehind property (Text.trim behind) := by
  rw [parse, splitProperty_append hne hsolid hparen hbehind]
  rfl

end DynamicSql.Placeholder
