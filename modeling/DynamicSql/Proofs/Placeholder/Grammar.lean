import DynamicSql.Proofs.Placeholder.Attributes
import DynamicSql.Proofs.Placeholder.Reading

/-!
# The grammar of placeholders

A content gives a property, perhaps a type behind a colon, and attributes behind commas. `Says`
states this without a word on how contents are read: a property has neither commas nor colons, or
stands between parentheses that match (`Closes`), items that hold white space only write nothing,
and there may be white space around every part. A content is read exactly if it says something, and
as the placeholder that this makes up (`parse_eq_ok_iff_says`).
-/

namespace DynamicSql.Placeholder

/-! ## The grammar -/

/-- A text that closes `depth` parentheses that were opened before it, and all of its own. -/
structure Closes (depth : Nat) (s : Text) : Prop where
  /-- At the end, all are closed. -/
  closed : s.count ')' = s.count '(' + depth
  /-- Nowhere more are closed than were opened. -/
  nested : ∀ u : Text, u <+: s → u.count ')' ≤ u.count '(' + depth

/-- The texts that give a property, which has no white space at its ends. -/
inductive Head : Text → Text → Prop
  /-- As it is, with neither commas nor colons, nor a parenthesis to begin with. -/
  | plain {s : Text} (hcomma : ',' ∉ s) (hcolon : ':' ∉ s) (hparen : s.head? ≠ some '(')
      (hgiven : Text.trim s ≠ []) : Head s (Text.trim s)
  /-- Between parentheses that match. -/
  | enclosed {s blanks : Text} (hcloses : Closes 0 s) (hgiven : Text.trim s ≠ [])
      (hblanks : blanks.all Text.isBlank = true) : Head ('(' :: s ++ ')' :: blanks) (Text.trim s)

/-- The texts that give a type, or none. -/
inductive TypePart : Text → Option Text → Prop
  /-- Nothing. -/
  | absent : TypePart [] none
  /-- A colon and a text without commas. -/
  | given {s : Text} (hcomma : ',' ∉ s) (hgiven : Text.trim s ≠ []) :
      TypePart (':' :: s) (some (Text.trim s))

/-- Whether a content gives a property, perhaps a type, and attributes: the property comes first,
then the type, and then items behind commas, which write the attributes or are blank. -/
def Says (content property : Text) (type : Option Text) (attributes : List Attribute) : Prop :=
  ∃ (head typePart : Text) (items : List Text),
    Text.trim content = head ++ (typePart ++ items.flatMap (',' :: ·)) ∧
      Head head property ∧ TypePart typePart type ∧ (∀ item ∈ items, ',' ∉ item) ∧
        List.Forall₂ Attribute.Writes attributes (items.filter (!Text.allBlank ·))

/-! ## Parentheses -/

section paren

variable {depth : Nat} {c : Char} {s inner after : Text}

lemma closes_nil_iff : Closes depth [] ↔ depth = 0 := by
  constructor
  · rintro ⟨hclosed, -⟩
    simpa using hclosed.symm
  · rintro rfl
    exact ⟨rfl, fun u hu => by rw [List.prefix_nil.1 hu]; rfl⟩

/-- One character more changes how many parentheses are to be closed. -/
lemma closes_cons_iff {depth' : Nat} (h : [c].count ')' + depth' = [c].count '(' + depth) :
    Closes depth (c :: s) ↔ Closes depth' s := by
  have hcount : ∀ u : Text, (c :: u).count ')' ≤ (c :: u).count '(' + depth ↔
      u.count ')' ≤ u.count '(' + depth' := by
    intro u
    rw [← List.singleton_append, List.count_append, List.count_append]
    omega
  constructor
  · rintro ⟨hclosed, hnested⟩
    rw [← List.singleton_append, List.count_append, List.count_append] at hclosed
    refine ⟨by omega, fun u hu => (hcount u).1 (hnested _ ?_)⟩
    exact List.cons_prefix_cons.2 ⟨rfl, hu⟩
  · rintro ⟨hclosed, hnested⟩
    constructor
    · rw [← List.singleton_append, List.count_append, List.count_append]
      omega
    · intro u hu
      rcases List.prefix_cons_iff.1 hu with rfl | ⟨v, rfl, hv⟩
      · exact Nat.zero_le _
      · exact (hcount v).2 (hnested v hv)

/-- One character more, if it is not the closing parenthesis that is looked for. -/
lemma cons_eq_append_iff (depth' : Nat) (hfirst : c ≠ ')' ∨ depth ≠ 0)
    (h : [c].count ')' + depth' = [c].count '(' + depth) :
    c :: s = inner ++ ')' :: after ∧ Closes depth inner ↔
      ∃ rest, inner = c :: rest ∧ s = rest ++ ')' :: after ∧ Closes depth' rest := by
  constructor
  · rintro ⟨heq, hcloses⟩
    rcases inner with _ | ⟨d, rest⟩
    · obtain ⟨rfl, -⟩ := List.cons.inj heq
      exact absurd (closes_nil_iff.1 hcloses) (hfirst.resolve_left fun hne => hne rfl)
    · obtain ⟨rfl, rfl⟩ := List.cons.inj heq
      exact ⟨rest, rfl, rfl, (closes_cons_iff h).1 hcloses⟩
  · rintro ⟨rest, rfl, rfl, hcloses⟩
    exact ⟨rfl, (closes_cons_iff h).2 hcloses⟩

/-- What is read before the closing parenthesis goes on with what is read after it. -/
lemma map_cons_eq_some_iff {r : Option (Text × Text)} :
    (r.map fun (inner, after) => (c :: inner, after)) = some (inner, after) ↔
      ∃ rest, inner = c :: rest ∧ r = some (rest, after) := by
  rcases r with _ | ⟨rest, after'⟩ <;> simp [eq_comm]

/-- **The matching parenthesis is the first one that closes those that are open.** -/
theorem matchingParen?_eq_some_iff :
    matchingParen? depth s = some (inner, after) ↔
      s = inner ++ ')' :: after ∧ Closes depth inner := by
  fun_induction matchingParen? depth s generalizing inner with
  | case1 => simp
  | case2 depth s ih =>
      rw [map_cons_eq_some_iff,
        cons_eq_append_iff (depth + 1) (.inl (by decide)) (by simp; omega)]
      exact exists_congr fun rest => and_congr_right fun _ => ih
  | case3 s =>
      constructor
      · rintro ⟨⟩
        exact ⟨rfl, closes_nil_iff.2 rfl⟩
      · rintro ⟨heq, hcloses⟩
        rcases inner with _ | ⟨c, inner⟩
        · obtain ⟨-, rfl⟩ := List.cons.inj heq
          rfl
        · -- a parenthesis is closed that is not open
          obtain ⟨rfl, -⟩ := List.cons.inj heq
          exact absurd (hcloses.nested [')'] ⟨inner, rfl⟩) (by decide)
  | case4 s depth ih =>
      rw [map_cons_eq_some_iff,
        cons_eq_append_iff depth (.inr (by omega)) (by simp; omega)]
      exact exists_congr fun rest => and_congr_right fun _ => ih
  | case5 depth c s hleft hright ih =>
      have hcount : [c].count ')' = [c].count '(' := by
        rw [List.count_singleton, List.count_singleton, if_neg (by simpa using hright),
          if_neg (by simpa using hleft)]
      rw [map_cons_eq_some_iff, cons_eq_append_iff depth (.inl hright) (by rw [hcount])]
      exact exists_congr fun rest => and_congr_right fun _ => ih

end paren

/-! ## The property -/

section head

variable {content head property rest : Text}

/-- Commas and colons end a property, and nothing else does. -/
lemma all_not_endsProperty_iff {s : Text} :
    s.all (!endsProperty ·) = true ↔ ',' ∉ s ∧ ':' ∉ s := by
  rw [List.all_eq_true]
  constructor
  · intro h
    exact ⟨fun hmem => absurd (h _ hmem) (by decide), fun hmem => absurd (h _ hmem) (by decide)⟩
  · rintro ⟨hcomma, hcolon⟩ c hc
    have hne : c ≠ ',' := fun heq => hcomma (heq ▸ hc)
    have hne' : c ≠ ':' := fun heq => hcolon (heq ▸ hc)
    simp [endsProperty, hne, hne']

/-- A property in parentheses goes up to the matching one. -/
lemma splitProperty_of_paren {inner : Text} (htrim : Text.trim content = '(' :: inner) :
    splitProperty content =
      match matchingParen? 0 inner with
      | none => .error .unbalanced
      | some (s, after) =>
        if (Text.trim s).isEmpty then .error .missingProperty
        else .ok (Text.trim s, Text.trimStart after) := by
  rw [splitProperty, htrim]
  rcases hclose : matchingParen? 0 inner with _ | ⟨s, after⟩ <;> simp only [hclose, Option.map]

/-- What is split off as a property gives one. -/
lemma head_of_splitProperty (h : splitProperty content = .ok (property, rest)) :
    ∃ head, Text.trim content = head ++ rest ∧ Head head property ∧
      ∀ c ∈ rest.head?, Text.isBlank c = false := by
  by_cases hparen : (Text.trim content).head? = some '('
  · obtain ⟨inner, htrim⟩ := List.head?_eq_some_iff.1 hparen
    rw [splitProperty_of_paren htrim] at h
    rcases hclose : matchingParen? 0 inner with _ | ⟨s, after⟩
    · rw [hclose] at h
      cases h
    · rw [hclose] at h
      obtain ⟨rfl, hcloses⟩ := matchingParen?_eq_some_iff.1 hclose
      obtain ⟨blanks, hblanks, hafter⟩ := Text.exists_append_trimStart after
      dsimp only at h
      split at h
      · cases h
      · next hgiven =>
        cases h
        refine ⟨'(' :: s ++ ')' :: blanks, ?_,
          .enclosed hcloses (by simpa using hgiven) hblanks, ?_⟩
        · rw [htrim]
          simp [← hafter]
        · exact fun c hc => Text.of_mem_head?_dropWhile hc
  · rw [splitProperty_of_trim rfl hparen] at h
    split at h
    · cases h
    · next hgiven =>
      cases h
      obtain ⟨hcomma, hcolon⟩ := all_not_endsProperty_iff.1
        (List.all_takeWhile : ((Text.trim content).takeWhile (!endsProperty ·)).all _ = true)
      refine ⟨_, List.takeWhile_append_dropWhile.symm,
        .plain hcomma hcolon ?_ (by simpa using hgiven), fun c hc => ?_⟩
      · intro hfirst
        rw [List.head?_takeWhile, Option.filter_eq_some_iff] at hfirst
        exact hparen hfirst.1
      · have hends := Text.of_mem_head?_dropWhile hc
        exact isBlank_of_endsProperty (by simpa using hends)

/-- A property is split off in front of what may follow one. -/
lemma splitProperty_of_head (htrim : Text.trim content = head ++ rest) (h : Head head property)
    (hrest : ∀ c ∈ rest.head?, endsProperty c = true) :
    splitProperty content = .ok (property, rest) := by
  cases h with
  | plain hcomma hcolon hparen hgiven =>
      have hspan := all_not_endsProperty_iff.2 ⟨hcomma, hcolon⟩
      rw [splitProperty_of_span htrim hspan hparen hrest, if_neg (by simpa using hgiven)]
  | @enclosed s blanks hcloses hgiven hblanks =>
      have htrim' : Text.trim content = '(' :: (s ++ ')' :: (blanks ++ rest)) := by
        rw [htrim]
        simp
      have hstop : ∀ c ∈ rest.head?, Text.isBlank c = false := fun c hc =>
        isBlank_of_endsProperty (hrest c hc)
      have hclose : matchingParen? 0 (s ++ ')' :: (blanks ++ rest)) = some (s, blanks ++ rest) :=
        matchingParen?_eq_some_iff.2 ⟨rfl, hcloses⟩
      rw [splitProperty_of_paren htrim', hclose]
      dsimp only
      rw [if_neg (by simpa using hgiven), Text.trimStart, Text.dropWhile_span hblanks hstop]

end head

/-! ## The type -/

section type

variable {rest typePart after : Text} {type : Option Text}

/-- What is split off as a type gives one, or there is none. -/
lemma typePart_of_splitType (h : splitType rest = .ok (type, after))
    (hrest : ∀ c ∈ rest.head?, Text.isBlank c = false) :
    ∃ typePart, rest = typePart ++ after ∧ TypePart typePart type ∧
      ∀ c ∈ after.head?, Text.isBlank c = false := by
  unfold splitType at h
  split at h
  · next s =>
    dsimp only at h
    split at h
    · cases h
    · next hgiven =>
      cases h
      refine ⟨':' :: s.takeWhile (· != ','), ?_, .given ?_ (by simpa using hgiven), fun c hc => ?_⟩
      · rw [List.cons_append, List.takeWhile_append_dropWhile]
      · intro hmem
        exact absurd (List.mem_takeWhile_imp hmem) (by decide)
      · obtain rfl : c = ',' := by simpa using Text.of_mem_head?_dropWhile hc
        rfl
  · cases h
    exact ⟨[], rfl, .absent, hrest⟩

/-- A type is split off in front of a comma. -/
lemma splitType_of_typePart (h : TypePart typePart type) (hafter : ∀ c ∈ after.head?, c = ',') :
    splitType (typePart ++ after) = .ok (type, after) := by
  cases h with
  | absent =>
      rw [List.nil_append]
      unfold splitType
      split
      · exact absurd (hafter ':' rfl) (by decide)
      · rfl
  | @given s hcomma hgiven =>
      have hall : s.all (· != ',') = true :=
        List.all_eq_true.2 fun c hc => bne_iff_ne.2 fun heq => hcomma (heq ▸ hc)
      have hstop : ∀ c ∈ after.head?, (c != ',') = false := by
        intro c hc
        rw [hafter c hc]
        rfl
      rw [List.cons_append, splitType, Text.takeWhile_span hall hstop,
        Text.dropWhile_span hall hstop, if_neg (by simpa using hgiven)]

end type

/-! ## Items -/

section items

variable {s rest : Text} {items pairs : List Text}

/-- What follows a comma is a sequence of items. -/
lemma exists_items (s : Text) :
    ∃ items : List Text, (∀ item ∈ items, ',' ∉ item) ∧ ',' :: s = items.flatMap (',' :: ·) := by
  induction s with
  | nil => exact ⟨[[]], by simp, rfl⟩
  | cons c s ih =>
      obtain ⟨items, hcomma, heq⟩ := ih
      by_cases hc : c = ','
      · subst hc
        refine ⟨[] :: items, List.forall_mem_cons.2 ⟨List.not_mem_nil, hcomma⟩, ?_⟩
        rw [heq]
        rfl
      · rcases items with _ | ⟨item, items⟩
        · cases heq
        · obtain ⟨hitem, hcomma⟩ := List.forall_mem_cons.1 hcomma
          refine ⟨(c :: item) :: items, List.forall_mem_cons.2 ⟨?_, hcomma⟩, ?_⟩
          · exact List.not_mem_cons_of_ne_of_not_mem (Ne.symm hc) hitem
          · obtain ⟨-, rfl⟩ := List.cons.inj heq
            rfl

/-- Items behind commas are what a text is divided into at its commas. -/
lemma splitOn_items {item : Text} (hitem : ',' ∉ item) (hcomma : ∀ item ∈ items, ',' ∉ item) :
    (item ++ items.flatMap (',' :: ·)).splitOn ',' = item :: items := by
  induction items generalizing item with
  | nil => rw [List.flatMap_nil, List.append_nil, List.splitOn_eq_singleton hitem]
  | cons next items ih =>
      rw [List.forall_mem_cons] at hcomma
      rw [List.flatMap_cons, List.cons_append, List.splitOn_append_cons_self_of_not_mem hitem,
        ih hcomma.1 hcomma.2]

/-- What stands behind the property and the type is divided into items, and blank ones are left
out. -/
lemma splitAttributes_eq_ok_iff (hrest : ∀ c ∈ rest.head?, Text.isBlank c = false) :
    splitAttributes rest = .ok pairs ↔
      ∃ items : List Text, (∀ item ∈ items, ',' ∉ item) ∧ rest = items.flatMap (',' :: ·) ∧
        pairs = items.filter (!Text.allBlank ·) := by
  have hitems : ∀ items : List Text, (∀ item ∈ items, ',' ∉ item) →
      splitAttributes (items.flatMap (',' :: ·)) = .ok (items.filter (!Text.allBlank ·)) := by
    intro items hcomma
    rcases items with _ | ⟨item, items⟩
    · rfl
    · rw [List.forall_mem_cons] at hcomma
      rw [List.flatMap_cons, List.cons_append, splitAttributes, splitOn_items hcomma.1 hcomma.2]
  constructor
  · intro h
    rcases rest with _ | ⟨c, s⟩
    · cases h
      exact ⟨[], by simp, rfl, rfl⟩
    · by_cases hc : c = ','
      · subst hc
        obtain ⟨items, hcomma, heq⟩ := exists_items s
        rw [heq, hitems items hcomma] at h
        cases h
        exact ⟨items, hcomma, heq, rfl⟩
      · have hblank : Text.allBlank (c :: s) = false := by
          rw [Text.allBlank, List.all_cons, hrest c rfl, Bool.false_and]
        unfold splitAttributes at h
        split at h
        · next heq => exact absurd (List.cons.inj heq).1 hc
        · rw [hblank] at h
          cases h
  · rintro ⟨items, hcomma, rfl, rfl⟩
    exact hitems items hcomma

end items

/-! ## Contents -/

variable {content : Text} {p : Placeholder}

/-- A content is read part by part. -/
lemma parse_eq_ok_iff_split : parse content = .ok p ↔
    ∃ property rest type after pairs, splitProperty content = .ok (property, rest) ∧
      splitType rest = .ok (type, after) ∧ splitAttributes after = .ok pairs ∧
        readAttributes { property, jdbcType := type } pairs = .ok p := by
  simp only [parse, bind, bind_eq_ok_iff, Prod.exists, exists_and_left]

/-- **A content is read if the grammar says so, as it says.** -/
theorem parse_eq_ok_iff_says :
    parse content = .ok p ↔
      ∃ property type attributes, Says content property type attributes ∧
        p = ofParts property type attributes := by
  rw [parse_eq_ok_iff_split]
  constructor
  · rintro ⟨property, rest, type, after, pairs, hproperty, htype, hpairs, hread⟩
    obtain ⟨head, htrim, hhead, hrest⟩ := head_of_splitProperty hproperty
    obtain ⟨typePart, rfl, hpart, hafter⟩ := typePart_of_splitType htype hrest
    obtain ⟨items, hcomma, rfl, rfl⟩ := (splitAttributes_eq_ok_iff hafter).1 hpairs
    obtain ⟨attributes, hwrites, rfl⟩ := readAttributes_eq_ok_iff.1 hread
    exact ⟨property, type, attributes,
      ⟨head, typePart, items, htrim, hhead, hpart, hcomma, hwrites⟩,
      foldl_set property type attributes⟩
  · rintro ⟨property, type, attributes,
      ⟨head, typePart, items, htrim, hhead, hpart, hcomma, hwrites⟩, rfl⟩
    have hitems : ∀ c ∈ (items.flatMap (',' :: ·)).head?, c = ',' := by
      rcases items with _ | ⟨item, items⟩
      · rintro c ⟨⟩
      · rintro c ⟨⟩
        rfl
    have hrest : ∀ c ∈ (typePart ++ items.flatMap (',' :: ·)).head?, endsProperty c = true := by
      cases hpart with
      | absent =>
          intro c hc
          rw [hitems c hc]
          rfl
      | given =>
          rintro c ⟨⟩
          rfl
    have hblank : ∀ c ∈ (items.flatMap (',' :: ·)).head?, Text.isBlank c = false := by
      intro c hc
      rw [hitems c hc]
      rfl
    exact ⟨property, _, type, _, _, splitProperty_of_head htrim hhead hrest,
      splitType_of_typePart hpart hitems,
      (splitAttributes_eq_ok_iff hblank).2 ⟨items, hcomma, rfl, rfl⟩,
      readAttributes_eq_ok_iff.2 ⟨attributes, hwrites, (foldl_set property type attributes).symm⟩⟩

end DynamicSql.Placeholder
