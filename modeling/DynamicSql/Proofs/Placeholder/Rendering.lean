import DynamicSql.Proofs.Placeholder.Grammar

/-!
# Writing placeholders

A placeholder is written as its property, perhaps a type behind a colon, and attributes behind
commas. The attributes may come in any order and more than once, and may be left out where the
placeholder says so by default (`States`). What is written so is read as the placeholder again
(`parse_render`).

That reading undoes writing follows from the grammar of what is read, and `parse_grammar` states
the two together.
-/

namespace DynamicSql

/-! ## Attributes -/

namespace Attribute

/-- The value of an attribute as it is written. -/
def value : Attribute → Text
  | text _ value => value
  | mode direction => direction.name.toList
  | numericScale scale => Text.ofNat scale

/-- An attribute as it is written. -/
def render (a : Attribute) : Text := a.name ++ '=' :: a.value

/-- Whether an attribute can be written: there are no commas in texts, nor white space around them,
and a scale has 32 bits. -/
def Neat : Attribute → Prop
  | text _ value => Text.trim value = value ∧ ',' ∉ value
  | mode _ => True
  | numericScale scale => scale < Nat.pow 2 32

variable {a : Attribute}

/-- The names of attributes are words. -/
lemma isName_name (a : Attribute) : Text.isName a.name = true := by
  rcases a with ⟨kind, value⟩ | direction | scale
  · cases kind <;> rfl
  · rfl
  · rfl

lemma trim_value (h : a.Neat) : Text.trim a.value = a.value := by
  cases a with
  | text kind value => exact h.1
  | mode direction => cases direction <;> rfl
  | numericScale scale =>
      exact Text.trim_of_forall_mem fun c hc =>
        Text.isBlank_of_continuesName (Text.continuesName_of_isDigit (Text.isDigit_of_mem_ofNat hc))

lemma comma_not_mem_value (h : a.Neat) : ',' ∉ a.value := by
  cases a with
  | text kind value => exact h.2
  | mode direction => cases direction <;> decide
  | numericScale scale => exact Text.not_mem_ofNat rfl scale

/-- The value of an attribute states it. -/
lemma stated_value (h : a.Neat) : a.Stated a.value := by
  cases a with
  | text kind value => exact .text kind value
  | mode direction => exact .mode (by cases direction <;> rfl)
  | numericScale scale =>
      have hdigits : (Text.ofNat scale).all Char.isDigit = true :=
        List.all_eq_true.2 fun c hc => Text.isDigit_of_mem_ofNat hc
      have hfits : Text.toNat (Text.ofNat scale) < Nat.pow 2 32 := by
        rw [Text.toNat_ofNat]
        exact h
      have hne : Text.ofNat scale ≠ [] := Nat.toDigits_ne_nil
      have hstated := Stated.numericScale (.inl rfl) hne hdigits hfits
      rwa [Text.toNat_ofNat] at hstated

/-- **What is written for an attribute writes it.** -/
lemma writes_render (h : a.Neat) : a.Writes a.render := by
  have hname := isName_name a
  refine ⟨a.name, a.value, rfl, Text.not_mem_of_isName hname rfl, ?_, ?_⟩
  · exact Text.trim_of_forall_mem fun c hc =>
      Text.isBlank_of_continuesName (Text.continuesName_of_mem hname hc)
  · rw [trim_value h]
    exact stated_value h

lemma comma_not_mem_render (h : a.Neat) : ',' ∉ a.render := by
  rw [render, List.mem_append, List.mem_cons]
  rintro (hname | heq | hvalue)
  · exact Text.not_mem_of_isName (isName_name a) rfl hname
  · cases heq
  · exact comma_not_mem_value h hvalue

lemma endsSolid_render (h : a.Neat) : Text.endsSolid a.render = true := by
  refine Text.endsSolid_append _ ?_
  by_cases hvalue : a.value = []
  · rw [hvalue]
    rfl
  · rw [← List.singleton_append, ← trim_value h]
    exact Text.endsSolid_append _ (Text.endsSolid_trim (by rwa [trim_value h]))

lemma text?_eq_some_iff (kind : TextAttribute) (a : Attribute) (value : Text) :
    a.text? kind = some value ↔ a = text kind value := by
  cases a <;> simp [text?]

lemma mode?_eq_some_iff (a : Attribute) (direction : Direction) :
    a.mode? = some direction ↔ a = mode direction := by
  cases a <;> simp [mode?]

lemma scale?_eq_some_iff (a : Attribute) (scale : Nat) :
    a.scale? = some scale ↔ a = numericScale scale := by
  cases a <;> simp [scale?]

end Attribute

namespace Placeholder

/-! ## What a placeholder states -/

/-- The texts that a placeholder passes on. -/
def text? (p : Placeholder) : TextAttribute → Option Text
  | .javaType => p.javaType
  | .jdbcType => p.jdbcType
  | .jdbcTypeName => p.jdbcTypeName
  | .typeHandler => p.typeHandler
  | .resultMap => p.resultMap

/-- Whether an attribute is one of a placeholder. -/
def Has (p : Placeholder) : Attribute → Prop
  | .text kind value => p.text? kind = some value
  | .mode direction => p.direction = direction
  | .numericScale scale => p.numericScale = some scale

/-- The attributes of a placeholder. -/
def attributes (p : Placeholder) : List Attribute :=
  TextAttribute.kinds.filterMap (fun kind => (p.text? kind).map (.text kind)) ++
    .mode p.direction :: p.numericScale.toList.map .numericScale

lemma mem_attributes_iff {p : Placeholder} {a : Attribute} : a ∈ p.attributes ↔ p.Has a := by
  rw [attributes, List.mem_append, List.mem_cons]
  rcases a with ⟨kind, value⟩ | direction | scale
  · have hkind : kind ∈ TextAttribute.kinds := by cases kind <;> decide
    simp [Has, hkind]
  · simp [Has, eq_comm (a := direction)]
  · simp [Has]

/-- Whether attributes, and perhaps a type, are those of a placeholder, in any order and any number
of times. -/
structure States (p : Placeholder) (type : Option Text) (attributes : List Attribute) : Prop where
  /-- They are attributes of the placeholder. -/
  sound : ∀ a ∈ attributes, p.Has a
  /-- The type is that of the placeholder. -/
  typed : ∀ t ∈ type, p.Has (.text .jdbcType t)
  /-- No others are left out than the direction to the database and the type, if that is given. -/
  complete : ∀ a, p.Has a → a ∈ attributes ∨ a = .mode .input ∨ ∃ t ∈ type, a = .text .jdbcType t

/-- Every placeholder is stated by its attributes alone. -/
lemma states_attributes (p : Placeholder) : p.States none p.attributes :=
  ⟨fun _ ha => mem_attributes_iff.1 ha, by rintro _ ⟨⟩, fun _ ha => .inl (mem_attributes_iff.2 ha)⟩

variable {p : Placeholder} {type : Option Text} {attributes : List Attribute}

/-- The last attribute of a kind is the one that the placeholder has, or it was left out. -/
lemma getLast?_of_states {α : Type} {get? : Attribute → Option α} {of : α → Attribute}
    {value default : Option α} (h : p.States type attributes)
    (hget : ∀ a x, get? a = some x ↔ a = of x) (hhas : ∀ x, p.Has (of x) ↔ value = some x)
    (hleft : ∀ x, of x = .mode .input ∨ (∃ t ∈ type, of x = .text .jdbcType t) → default = some x)
    (hnone : value = none → default = none) :
    (attributes.filterMap get?).getLast?.or default = value := by
  have hmem : ∀ x, x ∈ attributes.filterMap get? ↔ of x ∈ attributes := by
    intro x
    simp [List.mem_filterMap, hget]
  rcases hlast : (attributes.filterMap get?).getLast? with _ | x
  · rw [List.getLast?_eq_none_iff] at hlast
    rw [Option.none_or]
    cases hvalue : value with
    | none => exact hnone hvalue
    | some x =>
        rcases h.complete (of x) ((hhas x).2 hvalue) with hx | hx
        · rw [← hmem, hlast] at hx
          cases hx
        · exact hleft x hx
  · have hx := (hmem x).1 (List.mem_of_getLast? hlast)
    exact ((hhas x).1 (h.sound _ hx)).symm

/-- The last text of a kind is the one that the placeholder has. -/
lemma lastText?_of_states (h : p.States type attributes) (kind : TextAttribute) :
    (lastText? kind attributes).or (if kind = .jdbcType then type else none) = p.text? kind := by
  refine getLast?_of_states h (Attribute.text?_eq_some_iff kind) (fun _ => Iff.rfl) ?_ ?_
  · rintro value (hmode | ⟨t, ht, heq⟩)
    · cases hmode
    · cases heq
      exact ht
  · intro hnone
    split
    · next hkind =>
      subst hkind
      refine Option.eq_none_iff_forall_not_mem.2 fun t ht => ?_
      have htyped := h.typed t ht
      rw [Has, hnone] at htyped
      cases htyped
    · rfl

/-- **A placeholder is put together again from what states it.** -/
lemma ofParts_of_states (h : p.States type attributes) :
    ofParts p.property type attributes = p := by
  have htext : ∀ kind, kind ≠ .jdbcType → lastText? kind attributes = p.text? kind := by
    intro kind hkind
    have hlast := lastText?_of_states h kind
    rwa [if_neg hkind, Option.or_none] at hlast
  have htype : (lastText? .jdbcType attributes).or type = p.jdbcType :=
    lastText?_of_states h .jdbcType
  have hmode : (attributes.filterMap Attribute.mode?).getLast?.or (some .input) =
      some p.direction := by
    refine getLast?_of_states h Attribute.mode?_eq_some_iff (fun _ => Option.some_inj.symm) ?_ ?_
    · rintro direction (heq | ⟨t, -, heq⟩)
      · cases heq
        rfl
      · cases heq
    · rintro ⟨⟩
  have hscale : (attributes.filterMap Attribute.scale?).getLast?.or none = p.numericScale := by
    refine getLast?_of_states h Attribute.scale?_eq_some_iff (fun _ => Iff.rfl) ?_ fun _ => rfl
    rintro scale (heq | ⟨t, -, heq⟩) <;> cases heq
  rw [Option.or_some, Option.some_inj] at hmode
  rw [Option.or_none] at hscale
  rw [ofParts, hmode, hscale, htype, htext .javaType (by decide), htext .jdbcTypeName (by decide),
    htext .typeHandler (by decide), htext .resultMap (by decide)]
  rfl

/-! ## Writing and reading -/

/-- A placeholder as it is written, with a text that gives the property, perhaps a type, and
attributes. -/
def render (head : Text) (type : Option Text) (attributes : List Attribute) : Text :=
  head ++ (type.elim [] (':' :: ·) ++ attributes.flatMap (',' :: ·.render))

/-- Attributes behind a text that does not end with white space do not end with it either. -/
lemma endsSolid_append_flatMap {s : Text} (hs : Text.endsSolid s = true)
    (hneat : ∀ a ∈ attributes, a.Neat) :
    Text.endsSolid (s ++ attributes.flatMap (',' :: ·.render)) = true := by
  induction attributes generalizing s with
  | nil => rwa [List.flatMap_nil, List.append_nil]
  | cons a attributes ih =>
      rw [List.forall_mem_cons] at hneat
      rw [List.flatMap_cons, ← List.append_assoc]
      refine ih (Text.endsSolid_append s ?_) hneat.2
      exact Text.endsSolid_append [','] (Attribute.endsSolid_render hneat.1)

/-- There is no white space at the ends of what is written. -/
lemma trim_render {head property : Text} (h : Head head property) (hhead : Text.trim head = head)
    (htype : ∀ t ∈ type, Text.trim t = t ∧ t ≠ []) (hneat : ∀ a ∈ attributes, a.Neat) :
    Text.trim (render head type attributes) = render head type attributes := by
  have hne : Text.trim head ≠ [] := by
    rw [hhead]
    cases h with
    | plain hcomma hcolon hparen hgiven =>
        rintro rfl
        exact hgiven rfl
    | enclosed => exact List.cons_ne_nil _ _
  have hends : Text.endsSolid (head ++ type.elim [] (':' :: ·)) = true := by
    rcases type with _ | t
    · rw [Option.elim_none, List.append_nil, ← hhead]
      exact Text.endsSolid_trim hne
    · obtain ⟨htrimmed, hgiven⟩ := htype t rfl
      rw [← htrimmed] at hgiven
      have ht := Text.endsSolid_trim hgiven
      rw [htrimmed] at ht
      exact Text.endsSolid_append head (Text.endsSolid_append [':'] ht)
  have hall := endsSolid_append_flatMap hends hneat
  rw [List.append_assoc] at hall
  rw [render]
  obtain ⟨c, s, hcons⟩ := List.exists_cons_of_ne_nil hne
  have hfirst : Text.isBlank c = false :=
    Text.isBlank_of_mem_head?_trim (hcons ▸ rfl : c ∈ (Text.trim head).head?)
  rw [hhead] at hcons
  subst hcons
  exact Text.trim_of_endsSolid hfirst hall

/-- **What is written says what was meant.** -/
lemma says_render {head property : Text} (h : Head head property) (hhead : Text.trim head = head)
    (htype : ∀ t ∈ type, (Attribute.text .jdbcType t).Neat ∧ t ≠ [])
    (hneat : ∀ a ∈ attributes, a.Neat) :
    Says (render head type attributes) property type attributes := by
  have htrim : Text.trim (render head type attributes) = render head type attributes :=
    trim_render h hhead (fun t ht => ⟨(htype t ht).1.1, (htype t ht).2⟩) hneat
  refine ⟨head, type.elim [] (':' :: ·), attributes.map Attribute.render, ?_, h, ?_, ?_, ?_⟩
  · rw [htrim, render, List.flatMap_map]
  · rcases type with _ | t
    · exact .absent
    · obtain ⟨⟨htrimmed, hcomma⟩, hne⟩ := htype t rfl
      have hpart := TypePart.given hcomma (by rwa [htrimmed])
      rwa [htrimmed] at hpart
  · rw [List.forall_mem_map]
    exact fun a ha => Attribute.comma_not_mem_render (hneat a ha)
  · rw [List.filter_eq_self.2, List.forall₂_map_right_iff, List.forall₂_same]
    · exact fun a ha => Attribute.writes_render (hneat a ha)
    · rw [List.forall_mem_map]
      intro a ha
      rw [Text.allBlank_of_endsSolid (Attribute.endsSolid_render (hneat a ha))]
      rfl

/-- **What is read is what the grammar says, and what is written is read again.** -/
theorem parse_grammar :
    (∀ (content : Text) (p : Placeholder), parse content = .ok p ↔
      ∃ property type attributes, Says content property type attributes ∧
        p = ofParts property type attributes) ∧
    (∀ (p : Placeholder) (head : Text) (type : Option Text) (attributes : List Attribute),
      Head head p.property → Text.trim head = head → (∀ a, p.Has a → a.Neat) → type ≠ some [] →
        p.States type attributes → parse (render head type attributes) = .ok p) ∧
    ∀ p : Placeholder, p.States none p.attributes := by
  refine ⟨fun content p => parse_eq_ok_iff_says, ?_, states_attributes⟩
  intro p head type attributes hhead htrim hneat hgiven hstates
  refine parse_eq_ok_iff_says.2 ⟨p.property, type, attributes, ?_, (ofParts_of_states hstates).symm⟩
  refine says_render hhead htrim ?_ fun a ha => hneat a (hstates.sound a ha)
  rintro t ht
  refine ⟨hneat _ (hstates.typed t ht), ?_⟩
  rintro rfl
  exact hgiven ht

/-- A type and a direction between white space, and an expression with commas. -/
theorem parse_grammar_max :
    (∃ property type attributes,
      Says " price : DOUBLE , mode = out, ".toList property type attributes ∧
        { property := "price".toList, direction := .output, jdbcType := some "DOUBLE".toList } =
          ofParts property type attributes) ∧
    parse (render "(max(a, b))".toList (some "NUMERIC".toList) [.numericScale 2, .mode .inout]) =
      .ok { property := "max(a, b)".toList, direction := .inout,
            jdbcType := some "NUMERIC".toList, numericScale := some 2 } := by
  have hclose : matchingParen? 0 "max(a, b))".toList = some ("max(a, b)".toList, []) := rfl
  have hcloses := (matchingParen?_eq_some_iff.1 hclose).2
  refine ⟨(parse_grammar.1 _ _).1 rfl, parse_grammar.2.1 _ _ _ _ ?_ rfl ?_ (by decide) ⟨?_, ?_, ?_⟩⟩
  · exact .enclosed hcloses (by decide) rfl
  · rintro (⟨kind, value⟩ | direction | scale) h
    · cases kind <;> cases h
      exact ⟨rfl, by decide⟩
    · trivial
    · cases h
      exact (by decide : 2 < Nat.pow 2 32)
  · simp [Has]
  · rintro _ ⟨⟩
    rfl
  · rintro (⟨kind, value⟩ | direction | scale) h
    · cases kind <;> cases h
      exact .inr (.inr ⟨_, rfl, rfl⟩)
    · cases h
      exact .inl (by simp)
    · cases h
      exact .inl (by simp)

end Placeholder

end DynamicSql
