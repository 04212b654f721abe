import DynamicSql.Proofs.Delimited.Rewriting
import DynamicSql.Proofs.Fragment.Marking
import DynamicSql.Proofs.Placeholder.Reference

/-!
# Renamed fragments

A fragment whose placeholders all refer to the alias of a loop leaves the loop with placeholders
that refer to the name of the entry instead (`tokens_renameFragment`), in the same literal text.
With markers for its placeholders it is the same for all entries, apart from the numbers
(`marked_renameFragment`).
-/

namespace DynamicSql

/-- Text without backslashes whose placeholders, at least one, all end and refer to a name. -/
structure RefersTo (name s : Text) (references : List Reference) : Prop where
  /-- There are no escapes. -/
  escape : '\\' ∉ s
  /-- No token is left open. -/
  terminated : Delimiters.placeholder.Terminated s
  /-- The placeholders are the references. -/
  tokens : Delimiters.placeholder.tokens s = references.map (·.content name)
  /-- There is a placeholder. -/
  nonempty : references ≠ []
  /-- All references are valid. -/
  valid : ∀ r ∈ references, r.isValid name = true

namespace Loop

open Delimiters

variable {l : Loop} {name s : Text} {references : List Reference}
  (hitem : l.item = some name) (hname : Text.isName name = true)

include hitem hname

/-- A reference to the alias becomes one to the name of the entry. -/
lemma renameContent_content {r : Reference} (hvalid : r.isValid name = true) (id : Nat) :
    l.renameContent id (r.content name) = r.content (syntheticName name id) := by
  rw [renameContent, renameSome?, hitem, Option.bind_some,
    Reference.renameAlias?_content hname hvalid]
  rfl

variable (hs : RefersTo name s references)

include hs

/-- The placeholders of a fragment that refers to the alias, renamed. -/
lemma map_renameContent (id : Nat) :
    (placeholder.tokens s).map (l.renameContent id) =
      references.map (·.content (syntheticName name id)) := by
  rw [hs.tokens, List.map_map]
  exact List.map_congr_left fun r hr => renameContent_content hitem hname (hs.valid r hr) id

/-- A renamed content has nothing that closes or escapes a token. -/
lemma closed_renameContent (id : Nat) :
    ∀ content ∈ placeholder.tokens s,
      '}' ∉ l.renameContent id content ∧ '\\' ∉ l.renameContent id content := by
  intro content hcontent
  have hclosed := closed_of_mem_tokens hs.escape content hcontent
  rw [hs.tokens] at hcontent
  obtain ⟨r, hr, rfl⟩ := List.mem_map.1 hcontent
  have hsynthetic := isName_syntheticName hname id
  rw [renameContent_content hitem hname (hs.valid r hr)]
  simp only [Reference.content, List.mem_append, not_or] at hclosed ⊢
  exact ⟨⟨⟨Text.not_mem_of_isName hsynthetic (by decide), hclosed.1.1.2⟩, hclosed.1.2⟩,
    ⟨⟨Text.not_mem_of_isName hsynthetic (by decide), hclosed.2.1.2⟩, hclosed.2.2⟩⟩

/-- Renaming changes the contents of a fragment and nothing else. -/
theorem division_renameFragment (id : Nat) :
    placeholder.division (l.renameFragment id s) =
        (placeholder.division s).mapContents (l.renameContent id) ∧
      placeholder.Terminated (l.renameFragment id s) :=
  have hclosed := closed_renameContent hitem hname hs id
  ⟨division_rewritten (by decide) hs.escape hclosed,
    hs.terminated.rewritten (by decide) hs.escape hclosed⟩

/-- **The placeholders of a renamed fragment** are the references to the name of the entry. -/
theorem tokens_renameFragment (id : Nat) :
    placeholder.tokens (l.renameFragment id s) =
      references.map (·.content (syntheticName name id)) := by
  rw [← contents_division, (division_renameFragment hitem hname hs id).1,
    Division.contents_mapContents, contents_division, map_renameContent hitem hname hs]

/-- A renamed fragment has as many placeholders as there are references. -/
lemma count_renameFragment (id : Nat) :
    MarkerStyle.count (l.renameFragment id s) = references.length := by
  rw [MarkerStyle.count, tokens_renameFragment hitem hname hs, List.length_map]

/-- A renamed fragment is not blank. -/
lemma allBlank_renameFragment (id : Nat) :
    Text.allBlank (l.renameFragment id s) = false := by
  rw [← Bool.not_eq_true]
  intro hblank
  have hcut : Text.cut? placeholder.opening (l.renameFragment id s) = none := by
    rw [Text.cut?_eq_none_iff]
    intro hinfix
    have hmem : '#' ∈ l.renameFragment id s := hinfix.subset List.mem_cons_self
    exact absurd (List.all_eq_true.1 hblank '#' hmem) (by decide)
  have hcount := MarkerStyle.count_of_none hcut
  rw [count_renameFragment hitem hname hs, List.length_eq_zero_iff] at hcount
  exact hs.nonempty hcount

/-- A renamed fragment has markers in the place of its placeholders, as if it were not renamed. -/
theorem marked_renameFragment (style : MarkerStyle) (before id : Nat) :
    style.marked before (l.renameFragment id s) =
      (placeholder.division s).fill (style.markers before references.length) := by
  rw [MarkerStyle.marked, (division_renameFragment hitem hname hs id).1, Division.fill_mapContents,
    count_renameFragment hitem hname hs]

/-- Markers have the effect of the placeholders at the ends of a renamed fragment. -/
theorem steady_renameFragment (id : Nat) :
    MarkerStyle.Steady (l.renameFragment id s) := by
  have hlen : ((placeholder.tokens s).map (l.renameContent id)).length =
      MarkerStyle.count (l.renameFragment id s) := by
    rw [map_renameContent hitem hname hs, List.length_map, count_renameFragment hitem hname hs]
  refine MarkerStyle.Steady.of_fill hlen ?_
  rw [(division_renameFragment hitem hname hs id).1, Division.fill_mapContents, List.map_map]
  exact replaceAll_eq _ _ s

end Loop

end DynamicSql
