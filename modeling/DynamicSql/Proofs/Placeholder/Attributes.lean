import DynamicSql.Placeholder
import DynamicSql.Proofs.Results
import DynamicSql.Proofs.Text.Cut
import DynamicSql.Proofs.Text.Span

/-!
# The attributes of a placeholder

An attribute is a text under one of five names, a direction, or a scale. `Attribute.Writes` says
how one is written as an item `name=value`, without a word on how items are read. Items are read
as the attributes that they write, and as no others (`readAttributes_eq_ok_iff`). Of several
attributes of one kind the last one counts, which is how `ofParts` puts a placeholder together
(`foldl_set`).
-/

namespace DynamicSql

/-- The attributes that are passed on as texts. -/
inductive TextAttribute where
  | javaType
  | jdbcType
  | jdbcTypeName
  | typeHandler
  | resultMap
  deriving DecidableEq

/-- The name of an attribute that is a text. -/
def TextAttribute.name : TextAttribute → String
  | javaType => "javaType"
  | jdbcType => "jdbcType"
  | jdbcTypeName => "jdbcTypeName"
  | typeHandler => "typeHandler"
  | resultMap => "resultMap"

/-- All of them. -/
def TextAttribute.kinds : List TextAttribute :=
  [javaType, jdbcType, jdbcTypeName, typeHandler, resultMap]

/-- An attribute with its value. -/
inductive Attribute where
  /-- A text under one of the names. -/
  | text (kind : TextAttribute) (value : Text)
  /-- The direction of the parameter. -/
  | mode (direction : Direction)
  /-- The scale. -/
  | numericScale (scale : Nat)

namespace Attribute

/-- The name of an attribute. -/
def name : Attribute → Text
  | text kind _ => kind.name.toList
  | mode _ => "mode".toList
  | numericScale _ => "numericScale".toList

/-- The texts that state the value of an attribute. -/
inductive Stated : Attribute → Text → Prop
  /-- A text states itself. -/
  | text (kind : TextAttribute) (value : Text) : Stated (text kind value) value
  /-- A direction is stated by its name in any case. -/
  | mode {direction : Direction} {value : Text}
      (h : Text.upperAscii value = direction.name.toList) : Stated (mode direction) value
  /-- A scale is stated in decimal, perhaps after a plus sign, and has 32 bits. -/
  | numericScale {sign digits : Text} (hsign : sign = [] ∨ sign = ['+']) (hne : digits ≠ [])
      (hdigits : digits.all Char.isDigit = true) (hfits : Text.toNat digits < Nat.pow 2 32) :
      Stated (numericScale (Text.toNat digits)) (sign ++ digits)

/-- Whether an item writes an attribute: the name before the first equals sign and the value behind
it, each with white space around it. -/
def Writes (a : Attribute) (item : Text) : Prop :=
  ∃ name value, item = name ++ '=' :: value ∧ '=' ∉ name ∧ Text.trim name = a.name ∧
    a.Stated (Text.trim value)

/-- The value of an attribute that is a text of the given kind. -/
def text? (kind : TextAttribute) : Attribute → Option Text
  | text k value => if k = kind then some value else none
  | mode _ | numericScale _ => none

/-- The direction that an attribute gives. -/
def mode? : Attribute → Option Direction
  | mode direction => some direction
  | text _ _ | numericScale _ => none

/-- The scale that an attribute gives. -/
def scale? : Attribute → Option Nat
  | numericScale scale => some scale
  | text _ _ | mode _ => none

end Attribute

/-! ## Values -/

/-- A direction is read from its name, in any case. -/
lemma Direction.ofText?_eq_some_iff {s : Text} {d : Direction} :
    Direction.ofText? s = some d ↔ Text.upperAscii s = d.name.toList := by
  constructor
  · intro h
    have hfound := List.find?_some h
    exact (beq_iff_eq.1 hfound).symm
  · intro h
    rw [Direction.ofText?, h]
    cases d <;> rfl

namespace Placeholder

/-- The scale that digits stand for, if there are some and it has 32 bits. -/
def scaleOfDigits? (digits : Text) : Option Nat :=
  if !digits.isEmpty && digits.all Char.isDigit && Text.toNat digits < Nat.pow 2 32 then
    some (Text.toNat digits)
  else none

lemma scaleOfDigits?_eq_some_iff {digits : Text} {n : Nat} :
    scaleOfDigits? digits = some n ↔ digits ≠ [] ∧ digits.all Char.isDigit = true ∧
      Text.toNat digits < Nat.pow 2 32 ∧ Text.toNat digits = n := by
  rw [scaleOfDigits?, Option.ite_none_right_eq_some]
  simp [and_assoc]

/-- A plus sign before the digits is left out. -/
lemma scale?_plus (digits : Text) : scale? ('+' :: digits) = scaleOfDigits? digits := rfl

lemma scale?_of_head? {s : Text} (h : s.head? ≠ some '+') : scale? s = scaleOfDigits? s := by
  unfold scale?
  split
  · exact absurd rfl h
  · rfl

/-- A scale is read from what states it. -/
lemma scale?_eq_some_iff {s : Text} {n : Nat} :
    scale? s = some n ↔ (Attribute.numericScale n).Stated s := by
  constructor
  · intro h
    by_cases hplus : s.head? = some '+'
    · obtain ⟨digits, rfl⟩ := List.head?_eq_some_iff.1 hplus
      rw [scale?_plus] at h
      obtain ⟨hne, hall, hfits, rfl⟩ := scaleOfDigits?_eq_some_iff.1 h
      exact .numericScale (.inr rfl) hne hall hfits
    · rw [scale?_of_head? hplus] at h
      obtain ⟨hne, hall, hfits, rfl⟩ := scaleOfDigits?_eq_some_iff.1 h
      exact .numericScale (.inl rfl) hne hall hfits
  · intro h
    cases h with
    | @numericScale sign digits hsign hne hall hfits =>
        have hread := scaleOfDigits?_eq_some_iff.2 ⟨hne, hall, hfits, rfl⟩
        rcases hsign with rfl | rfl
        · have hplus : digits.head? ≠ some '+' := by
            intro hplus
            obtain ⟨digits, rfl⟩ := List.head?_eq_some_iff.1 hplus
            cases hall
          rw [List.nil_append, scale?_of_head? hplus, hread]
        · exact hread

/-! ## Reading attributes -/

/-- The placeholder with an attribute. -/
def set (p : Placeholder) : Attribute → Placeholder
  | .text .javaType value => { p with javaType := some value }
  | .text .jdbcType value => { p with jdbcType := some value }
  | .text .jdbcTypeName value => { p with jdbcTypeName := some value }
  | .text .typeHandler value => { p with typeHandler := some value }
  | .text .resultMap value => { p with resultMap := some value }
  | .mode direction => { p with direction }
  | .numericScale scale => { p with numericScale := some scale }

variable {p q : Placeholder}

/-- Attributes that are texts take every value. -/
lemma setAttribute_text (p : Placeholder) (kind : TextAttribute) (value : Text) :
    p.setAttribute kind.name.toList value = .ok (p.set (.text kind value)) := by
  cases kind <;> simp only [TextAttribute.name] <;> rfl

lemma setAttribute_mode (p : Placeholder) {value : Text} {direction : Direction}
    (h : Direction.ofText? value = some direction) :
    p.setAttribute "mode".toList value = .ok (p.set (.mode direction)) := by
  rw [setAttribute, if_neg (by decide), if_neg (by decide), if_neg (by decide),
    if_neg (by decide), if_neg (by decide), if_pos rfl, h]
  rfl

lemma setAttribute_numericScale (p : Placeholder) {value : Text} {scale : Nat}
    (h : scale? value = some scale) :
    p.setAttribute "numericScale".toList value = .ok (p.set (.numericScale scale)) := by
  rw [setAttribute, if_neg (by decide), if_neg (by decide), if_neg (by decide),
    if_neg (by decide), if_neg (by decide), if_neg (by decide), if_pos rfl, h]
  rfl

/-- A name and a value are accepted if they are those of an attribute. -/
lemma setAttribute_eq_ok_iff {name value : Text} :
    p.setAttribute name value = .ok q ↔ ∃ a : Attribute, name = a.name ∧ a.Stated value ∧
      q = p.set a := by
  constructor
  · intro h
    unfold setAttribute at h
    split_ifs at h with hname hname hname hname hname hname hname
    · cases h
      exact ⟨.text .javaType value, hname, .text _ _, rfl⟩
    · cases h
      exact ⟨.text .jdbcType value, hname, .text _ _, rfl⟩
    · cases h
      exact ⟨.text .jdbcTypeName value, hname, .text _ _, rfl⟩
    · cases h
      exact ⟨.text .typeHandler value, hname, .text _ _, rfl⟩
    · cases h
      exact ⟨.text .resultMap value, hname, .text _ _, rfl⟩
    · rcases hd : Direction.ofText? value with _ | d
      · rw [hd] at h
        cases h
      · rw [hd] at h
        cases h
        exact ⟨.mode d, hname, .mode (Direction.ofText?_eq_some_iff.1 hd), rfl⟩
    · rcases hn : scale? value with _ | n
      · rw [hn] at h
        cases h
      · rw [hn] at h
        cases h
        exact ⟨.numericScale n, hname, scale?_eq_some_iff.1 hn, rfl⟩
  · rintro ⟨a, rfl, hstated, rfl⟩
    cases a with
    | text kind v =>
        cases hstated
        exact setAttribute_text p kind value
    | mode d =>
        cases hstated with
        | mode h => exact setAttribute_mode p (Direction.ofText?_eq_some_iff.2 h)
    | numericScale n => exact setAttribute_numericScale p (scale?_eq_some_iff.2 hstated)

/-- An item is accepted if it writes an attribute. -/
lemma readAttribute_eq_ok_iff {item : Text} :
    p.readAttribute item = .ok q ↔ ∃ a : Attribute, a.Writes item ∧ q = p.set a := by
  constructor
  · intro h
    rcases hcut : Text.cut? ['='] item with _ | ⟨name, value⟩
    · rw [readAttribute, hcut] at h
      cases h
    · rw [readAttribute, hcut] at h
      obtain ⟨a, hname, hstated, rfl⟩ := setAttribute_eq_ok_iff.1 h
      obtain ⟨hitem, hfirst⟩ := Text.cut?_singleton_iff.1 hcut
      exact ⟨a, ⟨name, value, hitem, hfirst, hname, hstated⟩, rfl⟩
  · rintro ⟨a, ⟨name, value, hitem, hfirst, hname, hstated⟩, rfl⟩
    rw [readAttribute, Text.cut?_singleton_iff.2 ⟨hitem, hfirst⟩]
    exact setAttribute_eq_ok_iff.2 ⟨a, hname, hstated, rfl⟩

/-- **Items are read as the attributes that they write**, one after the other. -/
theorem readAttributes_eq_ok_iff {items : List Text} :
    p.readAttributes items = .ok q ↔ ∃ attributes,
      List.Forall₂ Attribute.Writes attributes items ∧ q = attributes.foldl set p := by
  induction items generalizing p with
  | nil =>
      simp only [readAttributes, Except.ok.injEq, List.forall₂_nil_right_iff, exists_eq_left]
      exact eq_comm
  | cons item items ih =>
      rw [readAttributes, bind_eq_ok_iff]
      constructor
      · rintro ⟨next, hitem, hitems⟩
        obtain ⟨a, hwrites, rfl⟩ := readAttribute_eq_ok_iff.1 hitem
        obtain ⟨attributes, hall, rfl⟩ := ih.1 hitems
        exact ⟨a :: attributes, .cons hwrites hall, rfl⟩
      · rintro ⟨attributes, hall, rfl⟩
        obtain ⟨a, rest, hwrites, hrest, rfl⟩ := List.forall₂_cons_right_iff.1 hall
        exact ⟨p.set a, readAttribute_eq_ok_iff.2 ⟨a, hwrites, rfl⟩, ih.2 ⟨rest, hrest, rfl⟩⟩

/-! ## The last of a kind -/

/-- The last value of a kind that attributes give. -/
def lastText? (kind : TextAttribute) (attributes : List Attribute) : Option Text :=
  (attributes.filterMap (Attribute.text? kind)).getLast?

/-- The placeholder with a property, perhaps a type, and attributes. An attribute `jdbcType` counts
more than the type. -/
def ofParts (property : Text) (type : Option Text) (attributes : List Attribute) : Placeholder where
  property
  direction := (attributes.filterMap Attribute.mode?).getLast?.getD .input
  javaType := lastText? .javaType attributes
  jdbcType := (lastText? .jdbcType attributes).or type
  jdbcTypeName := lastText? .jdbcTypeName attributes
  typeHandler := lastText? .typeHandler attributes
  numericScale := (attributes.filterMap Attribute.scale?).getLast?
  resultMap := lastText? .resultMap attributes

/-- One more attribute is set over those before it. -/
lemma ofParts_concat (property : Text) (type : Option Text) (attributes : List Attribute)
    (a : Attribute) :
    ofParts property type (attributes ++ [a]) = (ofParts property type attributes).set a := by
  simp only [ofParts, lastText?, List.filterMap_append, List.getLast?_append]
  rcases a with ⟨kind, value⟩ | direction | scale
  · cases kind <;> rfl
  · rfl
  · rfl

/-- **Of attributes that are set one after the other, the last of each kind counts.** -/
theorem foldl_set (property : Text) (type : Option Text) (attributes : List Attribute) :
    attributes.foldl set { property, jdbcType := type } = ofParts property type attributes := by
  induction attributes using List.reverseRecOn with
  | nil => rfl
  | append_singleton attributes a ih =>
      rw [List.foldl_append, ih, ofParts_concat]
      rfl

end Placeholder

end DynamicSql
