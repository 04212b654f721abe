import DynamicSql.BoundSql
import DynamicSql.Node.Loop
import DynamicSql.Proofs.Expr.Path
import DynamicSql.Proofs.Placeholder.Reading
import Mathlib.Data.List.Basic

/-!
# Placeholders that refer to a name

A placeholder may follow a path from a name, with a type and attributes behind it. If the name is
bound, its value is where the path leads from there (`bound_content`). A loop that renames an
alias at the head of a content leaves the rest as it is (`renameAlias?_content`), and the names it
puts there are identifiers that no two entries share.
-/

namespace DynamicSql

/-! ## Names for entries -/

/-- How names for entries are made. -/
lemma syntheticName_eq (name : Text) (id : Nat) :
    syntheticName name id = "__gen_".toList ++ name ++ '_' :: Text.ofNat id := rfl

/-- Names for entries are names. -/
lemma isName_syntheticName {name : Text} (h : Text.isName name = true) (id : Nat) :
    Text.isName (syntheticName name id) = true := by
  obtain ⟨c, rest, rfl, -, hall⟩ := Text.exists_of_isName h
  rw [syntheticName_eq, List.append_assoc]
  refine Text.isName_append (by decide) ?_
  rw [List.all_append, hall, List.all_cons, Text.all_continuesName_ofNat]
  decide

/-- No keyword begins like the names for entries. -/
lemma syntheticName_not_mem_keywords (name : Text) (id : Nat) :
    syntheticName name id ∉ keywords.map Prod.fst := by
  intro hmem
  have hhead : ∀ word ∈ keywords.map Prod.fst, word.head? ≠ some '_' := by decide
  exact hhead _ hmem rfl

/-- Names for entries are identifiers. -/
lemma isIdentifier_syntheticName {name : Text} (h : Text.isName name = true) (id : Nat) :
    isIdentifier (syntheticName name id) = true := by
  rw [isIdentifier, isName_syntheticName h,
    Table.lookup_eq_none (syntheticName_not_mem_keywords name id)]
  rfl

/-- **Alias and id can be read off a name for an entry.** -/
theorem syntheticName_inj_iff {name other : Text} {i j : Nat} :
    syntheticName name i = syntheticName other j ↔ name = other ∧ i = j := by
  have hdigits (n : Nat) : '_' ∉ Text.ofNat n := Text.not_mem_ofNat rfl n
  constructor
  · intro h
    -- the last underscore is where the digits begin, so it divides both names alike
    have hrest : name ++ '_' :: Text.ofNat i = other ++ '_' :: Text.ofNat j := by
      rw [syntheticName_eq, syntheticName_eq, List.append_assoc, List.append_assoc] at h
      exact List.append_cancel_left h
    have hname : name = other := by
      rcases List.append_eq_append_iff.1 hrest with ⟨u, rfl, hu⟩ | ⟨u, rfl, hu⟩
      · cases u with
        | nil => simp
        | cons c u =>
            obtain ⟨-, hu⟩ := List.cons.inj hu
            exact absurd (by simp [hu]) (hdigits i)
      · cases u with
        | nil => simp
        | cons c u =>
            obtain ⟨-, hu⟩ := List.cons.inj hu
            exact absurd (by simp [hu]) (hdigits j)
    subst hname
    have hdigits : Text.ofNat i = Text.ofNat j := (List.cons.inj (List.append_cancel_left h)).2
    have hid : i = j := by
      calc i = Text.toNat (Text.ofNat i) := (Text.toNat_ofNat i).symm
        _ = Text.toNat (Text.ofNat j) := congrArg Text.toNat hdigits
        _ = j := Text.toNat_ofNat j
    exact ⟨rfl, hid⟩
  · rintro ⟨rfl, rfl⟩
    rfl

/-- A name for an entry is not the alias. -/
lemma ne_syntheticName (name : Text) (id : Nat) : name ≠ syntheticName name id := by
  intro h
  have hlen := congrArg List.length h
  simp only [syntheticName_eq, List.length_append, List.length_cons] at hlen
  omega

/-! ## Aliases that lead a content -/

/-- What it means for a content to be renamed. -/
lemma renameAlias?_eq_some {name replacement content renamed : Text}
    (h : renameAlias? name replacement content = some renamed) :
    ∃ rest, Text.trimStart content = name ++ rest ∧ (∀ c ∈ rest.head?, endsAlias c = true) ∧
      renamed = replacement ++ rest := by
  unfold renameAlias? at h
  split at h
  · cases h
  · split at h
    · cases h
    · next hprefix =>
      refine ⟨[], (List.isPrefixOf?_eq_some_iff_append_eq.1 hprefix).symm, nofun, ?_⟩
      rw [List.append_nil, Option.some.inj h]
    · next c rest hprefix =>
      split at h
      · next hends =>
        refine ⟨c :: rest, (List.isPrefixOf?_eq_some_iff_append_eq.1 hprefix).symm, ?_,
          (Option.some.inj h).symm⟩
        rintro _ ⟨⟩
        exact hends
      · cases h

/-- A content is renamed if the alias leads it as a whole word. -/
lemma renameAlias?_of_trimStart {name content rest : Text} (hname : name ≠ [])
    (htrim : Text.trimStart content = name ++ rest) (hrest : ∀ c ∈ rest.head?, endsAlias c = true)
    (replacement : Text) :
    renameAlias? name replacement content = some (replacement ++ rest) := by
  have hprefix : name.isPrefixOf? (Text.trimStart content) = some rest :=
    List.isPrefixOf?_eq_some_iff_append_eq.2 htrim.symm
  rw [renameAlias?, List.isEmpty_eq_false_iff.2 hname, if_neg Bool.false_ne_true, hprefix]
  cases rest with
  | nil => rw [List.append_nil]
  | cons c rest => simp only [hrest c rfl, if_true]

/-! ## Names that lead a property -/

/-- What may stand behind an alias in a placeholder is part of no name. -/
lemma not_continuesName_of_endsAlias {c : Char} (h : endsAlias c = true) :
    Text.continuesName c = false ∧ c ≠ '$' := by
  by_cases hblank : Text.isBlank c = true
  · constructor
    · rw [← Bool.not_eq_true]
      intro hname
      rw [Text.isBlank_of_continuesName hname] at hblank
      cases hblank
    · rintro rfl
      exact absurd hblank (by decide)
  · rw [Bool.not_eq_true] at hblank
    simp only [endsAlias, hblank, Bool.false_or, Bool.or_eq_true, beq_iff_eq] at h
    rcases h with ((rfl | rfl) | rfl) | rfl <;> decide

namespace Placeholder

section name

variable {name rest : Text} (hname : Text.isName name = true)
  (hrest : ∀ c ∈ rest.head?, endsAlias c = true)

include hname hrest

/-- The name leads the property. -/
lemma rootName_append (p : Placeholder) : (p.withProperty (name ++ rest)).rootName = name := by
  refine Text.takeWhile_span (List.all_eq_true.2 fun d hd => ?_) fun d hd => ?_
  · have hd := Text.continuesName_of_mem hname hd
    rw [Text.continuesName] at hd
    rw [hd]
    rfl
  · obtain ⟨hcontinues, hdollar⟩ := not_continuesName_of_endsAlias (hrest d hd)
    rw [Text.continuesName] at hcontinues
    rw [hcontinues, Bool.false_or, beq_eq_false_iff_ne]
    exact hdollar

/-- A property led by a bound name is evaluated. -/
lemma resolve_append (p : Placeholder) {b : Bindings} {v : Value} (hv : b.get? name = some v) :
    (p.withProperty (name ++ rest)).resolve b = b.eval (name ++ rest) := by
  rw [resolve, rootName_append hname hrest, Table.contains, hv, Option.isSome_some, if_pos rfl]
  rfl

end name

end Placeholder

/-! ## References -/

/-- What a placeholder says about a name: a path from it, with a type and attributes behind. -/
structure Reference where
  /-- The path from the name. -/
  path : Path
  /-- What is written behind the path. -/
  attributes : Text := []
  deriving DecidableEq

namespace Reference

/-- The content that refers to a name. -/
def content (r : Reference) (name : Text) : Text := name ++ r.path.text ++ r.attributes

/-- What the reference stands for if the name stands for a value. -/
def valueIn (v : Value) (r : Reference) : Except EvalError Value := r.path.follow v

/-- Whether the path is valid and is followed by a type and attributes that can be read. -/
def isValid (r : Reference) (name : Text) : Bool :=
  r.path.isValid && (Text.trimStart r.attributes).head?.all Placeholder.endsProperty &&
    (Placeholder.parse (r.content name)).isOk

/-- What is said of a valid reference. -/
lemma isValid_iff {r : Reference} {name : Text} : r.isValid name = true ↔
    r.path.isValid = true ∧
      (∀ c ∈ (Text.trimStart r.attributes).head?, Placeholder.endsProperty c = true) ∧
        (Placeholder.parse (r.content name)).isOk = true := by
  rw [isValid, Bool.and_eq_true, Bool.and_eq_true, Option.all_eq_true, and_assoc]
  rfl

/-! ### The property -/

open Placeholder in
/-- Characters of names end no property. -/
lemma isSolid_of_continuesName {c : Char} (h : Text.continuesName c = true) :
    isSolid c = true := by
  have hends : endsProperty c = false := by
    rw [← Bool.not_eq_true, endsProperty, Bool.or_eq_true, beq_iff_eq, beq_iff_eq]
    rintro (rfl | rfl) <;> exact absurd h (by decide)
  rw [isSolid, Text.isBlank_of_continuesName h, hends]
  rfl

open Placeholder in
/-- A step holds nothing that ends a property. -/
lemma all_isSolid_accessor {accessor : Accessor} (h : accessor.isValid = true) :
    accessor.text.all isSolid = true := by
  cases accessor with
  | field name =>
      rw [Accessor.isValid, isIdentifier, Bool.and_eq_true] at h
      rw [Accessor.text, List.all_cons, Bool.and_eq_true]
      refine ⟨by decide, List.all_eq_true.2 fun d hd => ?_⟩
      exact isSolid_of_continuesName (Text.continuesName_of_mem h.1 hd)
  | index negative digits =>
      simp only [Accessor.isValid, Bool.and_eq_true] at h
      have hdigits : digits.all isSolid = true := List.all_eq_true.2 fun d hd =>
        isSolid_of_continuesName
          (Text.continuesName_of_isDigit (List.all_eq_true.1 h.1.2 d hd))
      have hliteral : (Accessor.literal negative digits).all isSolid = true := by
        cases negative with
        | false => exact hdigits
        | true => exact Bool.and_eq_true_iff.2 ⟨by decide, hdigits⟩
      rw [Accessor.text, List.all_cons, List.all_append, hliteral]
      decide

open Placeholder in
/-- A name with a path behind it holds nothing that ends a property. -/
lemma all_isSolid_property {name : Text} {path : Path} (hname : Text.isName name = true)
    (h : path.isValid = true) : (name ++ path.text).all isSolid = true := by
  rw [List.all_append, Bool.and_eq_true]
  constructor
  · exact List.all_eq_true.2 fun d hd =>
      isSolid_of_continuesName (Text.continuesName_of_mem hname hd)
  · refine List.all_eq_true.2 fun d hd => ?_
    obtain ⟨accessor, haccessor, hd⟩ := List.mem_flatMap.1 hd
    exact List.all_eq_true.1 (all_isSolid_accessor (List.all_eq_true.1 h accessor haccessor)) d hd

/-- A reference is read as its property and what stands behind it. -/
lemma parse_content {r : Reference} {name : Text} (hname : Text.isName name = true)
    (hpath : r.path.isValid = true)
    (hattributes : ∀ c ∈ (Text.trimStart r.attributes).head?, Placeholder.endsProperty c = true) :
    Placeholder.parse (r.content name) =
      Placeholder.readBehind (name ++ r.path.text) (Text.trim r.attributes) := by
  have hsolid := all_isSolid_property hname hpath
  obtain ⟨c, rest, rfl, hc, -⟩ := Text.exists_of_isName hname
  refine Placeholder.parse_append (List.cons_ne_nil _ _) hsolid ?_ hattributes
  rw [List.cons_append, List.head?_cons, ne_eq, Option.some.injEq]
  rintro rfl
  exact absurd hc (by decide)

/-- **A reference to a bound name** stands for what its path leads to. -/
theorem bound_content {r : Reference} {name other : Text} {b : Bindings} {v : Value}
    (hname : isIdentifier name = true) (hother : Text.isName other = true)
    (hvalid : r.isValid other = true) (hv : b.get? name = some v) :
    (Placeholder.bound b (r.content name)).map (·.2) = (r.valueIn v).mapError .eval := by
  obtain ⟨hpath, hattributes, hok⟩ := isValid_iff.1 hvalid
  have hname' : Text.isName name = true := (Bool.and_eq_true .. ▸ hname).1
  rw [parse_content hother hpath hattributes] at hok
  rcases hother' : Placeholder.readBehind (other ++ r.path.text) (Text.trim r.attributes) with _ | p
  · rw [hother'] at hok
    cases hok
  · have hparse : Placeholder.parse (r.content name) =
        .ok (p.withProperty (name ++ r.path.text)) := by
      rw [parse_content hname' hpath hattributes,
        Placeholder.readBehind_eq (name ++ r.path.text) (other ++ r.path.text), hother']
      rfl
    have hvalue : b.value name = v := by
      rw [Bindings.value, Bindings.find?, hv]
      rfl
    have hends : ∀ c ∈ r.path.text.head?, endsAlias c = true := by
      intro c hc
      rcases Path.head?_text hc with rfl | rfl <;> decide
    have hresolve : (p.withProperty (name ++ r.path.text)).resolve b = r.valueIn v := by
      rw [Placeholder.resolve_append hname' hends p hv]
      exact (b.eval_path hname hpath).trans (congrArg _ hvalue)
    simp only [Placeholder.bound, hparse, hresolve]
    rcases r.valueIn v with e | w <;> rfl

/-! ### Renaming -/

/-- What stands behind a name that is referred to ends the name. -/
lemma endsAlias_of_mem_head? {r : Reference} {name : Text} (hvalid : r.isValid name = true)
    {c : Char} (hc : c ∈ (r.path.text ++ r.attributes).head?) : endsAlias c = true := by
  rw [List.head?_append, Option.mem_def, Option.or_eq_some_iff] at hc
  rcases hc with hc | ⟨-, hc⟩
  · rcases Path.head?_text hc with rfl | rfl <;> decide
  · by_cases hblank : Text.isBlank c = true
    · rw [endsAlias, hblank]
      rfl
    · obtain ⟨d, rest, hrest⟩ : ∃ d rest, r.attributes = d :: rest := by
        rcases hr : r.attributes with _ | ⟨d, rest⟩
        · rw [hr] at hc
          cases hc
        · exact ⟨d, rest, rfl⟩
      rw [hrest] at hc
      obtain rfl := Option.some.inj hc
      have hends := (isValid_iff.1 hvalid).2.1 d (by
        rw [hrest, Text.trimStart_cons (Bool.not_eq_true _ ▸ hblank)]
        rfl)
      rw [Placeholder.endsProperty, Bool.or_eq_true, beq_iff_eq, beq_iff_eq] at hends
      rcases hends with rfl | rfl <;> decide

/-- **A reference to an alias is renamed** to the same reference to the replacement. -/
theorem renameAlias?_content {r : Reference} {name : Text} (hname : Text.isName name = true)
    (hvalid : r.isValid name = true) (replacement : Text) :
    renameAlias? name replacement (r.content name) = some (r.content replacement) := by
  have htrim : Text.trimStart (r.content name) = name ++ (r.path.text ++ r.attributes) := by
    rw [content, List.append_assoc, Text.trimStart_name_append hname]
  rw [renameAlias?_of_trimStart (Text.ne_nil_of_isName hname) htrim
    fun d hd => endsAlias_of_mem_head? hvalid hd, content, List.append_assoc]

end Reference

end DynamicSql
