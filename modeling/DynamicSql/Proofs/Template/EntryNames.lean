import DynamicSql.Proofs.Expr.Leading
import DynamicSql.Proofs.Placeholder.Reference
import DynamicSql.Template

/-!
# The names of entries

A name for an entry of a loop is made from an alias and an id. It is read in three places: as a
token of an expression, as the name that leads the property of a placeholder, and where aliases are
checked. In all of them it is one name, also if the alias is a keyword, and no other alias and id
make the same (`entry_names`).
-/

namespace DynamicSql

/-- An identifier is a text of one token. -/
lemma TokenStream.ofText_of_isIdentifier {name : Text} (h : isIdentifier name = true)
    (start : Nat) : ofText start name =
      .token (.name name) (start + name.length) (.ended (start + name.length)) := by
  have hbegins := Path.begins_identifier h []
  rw [Path.text, List.flatMap_nil, List.append_nil] at hbegins
  obtain ⟨stop, hnext⟩ := hbegins start
  have hstop : stop = start + name.length := Lexed.stop_of_next hnext
  subst hstop
  rw [ofText_of_token hnext, ofText_of_ended (Lexed.next_of_all_isBlank rfl _)]
  rfl

namespace Template

/-- **Names for entries are unique and well-formed.** Alias and id can be read off such a name. If
the alias is a name, be it a keyword or not, then the name for the entry is no keyword and is read as
a single token; it is the root of every property that it leads, if nothing else stands behind it than
an access or white space; and it may itself be an alias. -/
theorem entry_names :
    (∀ (name other : Text) (i j : Nat),
      syntheticName name i = syntheticName other j ↔ name = other ∧ i = j) ∧
    ∀ (name : Text) (id : Nat), Text.isName name = true →
      let entryName := syntheticName name id
      entryName ∉ keywords.map Prod.fst ∧
        TokenStream.ofText 0 entryName =
          .token (.name entryName) entryName.length (.ended entryName.length) ∧
        (∀ (p : Placeholder) (rest : Text), p.property = entryName ++ rest →
          (∀ c ∈ rest.head?, c = '.' ∨ c = '[' ∨ Text.isBlank c = true) → p.rootName = entryName) ∧
        ∀ role, checkAlias role (some entryName) = .ok () := by
  refine ⟨fun _ _ _ _ => syntheticName_inj_iff, fun name id hname => ?_⟩
  have hentry := isName_syntheticName hname id
  refine ⟨syntheticName_not_mem_keywords name id, ?token, ?root, ?check⟩
  case token =>
    have hstream := TokenStream.ofText_of_isIdentifier (isIdentifier_syntheticName hname id) 0
    rwa [Nat.zero_add] at hstream
  case root =>
    intro p rest hproperty hrest
    have hends : ∀ c ∈ rest.head?, endsAlias c = true := by
      intro c hc
      rcases hrest c hc with rfl | rfl | hblank
      · rfl
      · rfl
      · rw [endsAlias, hblank]
        rfl
    calc p.rootName = (p.withProperty (syntheticName name id ++ rest)).rootName := by
          rw [← hproperty]
          rfl
      _ = syntheticName name id := Placeholder.rootName_append hentry hends p
  case check =>
    intro role
    exact if_pos hentry

/-- A keyword is made a name, and an alias that ends like an id does not pass for another one. -/
theorem entry_names_keyword :
    let entryName : Text := "__gen_null_12".toList
    Text.isName "null".toList = true ∧ syntheticName "null".toList 12 = entryName ∧
      TokenStream.ofText 0 entryName = .token (.name entryName) 13 (.ended 13) ∧
      Placeholder.rootName { property := "__gen_null_12 [0]".toList } = entryName ∧
      checkAlias .index (some entryName) = .ok () ∧
      syntheticName "a_1".toList 2 ≠ syntheticName "a".toList 12 := by
  intro entryName
  have hname : Text.isName "null".toList = true := by decide
  obtain ⟨-, htoken, hroot, halias⟩ := entry_names.2 "null".toList 12 hname
  have hbehind : ∀ c ∈ (" [0]".toList : Text).head?, c = '.' ∨ c = '[' ∨ Text.isBlank c = true := by
    rintro c ⟨⟩
    decide
  refine ⟨hname, rfl, htoken, hroot _ " [0]".toList rfl hbehind, halias .index, ?_⟩
  intro h
  have hsame := (entry_names.1 _ _ _ _).1 h
  exact absurd hsame.2 (by decide)

end Template

end DynamicSql
