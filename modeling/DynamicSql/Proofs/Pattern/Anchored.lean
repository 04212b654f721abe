import DynamicSql.Proofs.Pattern.Closing
import DynamicSql.Proofs.Pattern.Search

/-!
# Patterns between anchors

A filter or a method that is to match whole texts puts a group around its pattern and anchors around
the group. If the pattern is one by itself, it does not get out of the group: the tree that is read
starts with a test for the start of the text and ends with one for its end.

* `ofText?_anchored`: what is read between the anchors is the group.
* `Tree.concatAll_places`: what is made of it begins and ends with the tests.
* `find?_anchored`: so a search finds the whole text or nothing.
-/

namespace DynamicSql.Pattern

/-! ## Reading -/

/-- Without the mode that skips them, blanks are kept. -/
lemma Flags.skip_of_not_spaced {flags : Flags} (h : flags.spaced = false) (s : Text) :
    flags.skip s = s := by
  rw [skip, span, if_neg (by simp [h])]
  induction s with
  | nil => rfl
  | cons c s ih => simp

/-- The progress of a reader that has read nothing. -/
def Progress.start : Progress := { flags := {}, groups := 0, names := [] }

/-- A pattern has been read from its start to its end. -/
lemma exists_of_ofText? {s : Text} {x : Syntax} (h : Syntax.ofText? s = some x) :
    ∃ q, readGroup? (2 * s.length + 2) .start s = some (q, []) ∧ q.written = x := by
  rw [Syntax.ofText?] at h
  split at h
  · rename_i q hread
    exact ⟨q, hread, Option.some.inj (Option.ite_none_right_eq_some.1 h).2⟩
  · cases h

section

variable {fuel : Nat} {p : Progress} (hp : p.flags.spaced = false)
include hp

/-- An anchor is one part more. -/
lemma readGroup?_anchor {c : Char} {sign : PlaceSign}
    (hc : c = '^' ∧ sign = .caret ∨ c = '$' ∧ sign = .dollar) (s : Text) :
    readGroup? (fuel + 1) p (c :: s) = readGroup? fuel (p.push (.place p.flags sign)) s := by
  rw [readGroup?, Flags.skip_of_not_spaced hp]
  obtain ⟨rfl, rfl⟩ | ⟨rfl, rfl⟩ := hc
  · rfl
  · rfl

/-- A group without a number is read and then the rest. -/
lemma readGroup?_unnumbered (s : Text) :
    readGroup? (fuel + 1) p ('(' :: '?' :: ':' :: s) = readGroup?.readNested fuel p none p s := by
  rw [readGroup?]
  simp [Flags.skip_of_not_spaced hp, readRepetition?, readGroupStart?, readFlags?]

end

/-- **A pattern between anchors** that is a pattern by itself is read as this pattern between the
anchors. -/
theorem ofText?_anchored {source : Text} (hsource : (Syntax.ofText? source).isSome = true)
    {x : Syntax} (h : Syntax.ofText? (anchored source) = some x) :
    ∃ inner, x = .concat [.place {} .caret, .group none inner, .place {} .dollar] := by
  obtain ⟨q, hread, rfl⟩ := exists_of_ofText? h
  obtain ⟨y, hy⟩ := Option.isSome_iff_exists.1 hsource
  obtain ⟨inner, hinner, rfl⟩ := exists_of_ofText? hy
  have hsteps : 2 * (anchored source).length + 2 = 2 * source.length + 2 + 9 + 1 + 1 + 1 := by
    simp [anchored]
    omega
  have hsource : anchored source = '^' :: '(' :: '?' :: ':' :: (source ++ closing) := by
    simp [anchored, closing]
  obtain ⟨rest, hclosed, hrest⟩ :=
    groupFollowed _ (Nat.le_add_right (2 * source.length + 2) 9) (.inl rfl) hinner
  rw [hsteps, hsource, readGroup?_anchor rfl (.inl ⟨rfl, rfl⟩), readGroup?_unnumbered rfl] at hread
  obtain ⟨group, behind, hgroup, hread⟩ := readNested_eq_some_iff.1 hread
  have heq : some (group, ')' :: behind) = some (inner, rest) := hgroup.symm.trans hclosed
  cases heq
  obtain hrest | ⟨-, hrest⟩ := hrest
  · cases hrest
    change readGroup? (_ + 1) _ ('$' :: []) = _ at hread
    rw [readGroup?_anchor rfl (.inr ⟨rfl, rfl⟩)] at hread
    cases hread
    exact ⟨inner.written, rfl⟩
  · cases hrest

/-! ## Searching -/

namespace Tree

/-- Literals become one, but the place at the end of a sequence stays. -/
lemma consPart_append_place (part : Tree) (parts : List Tree) (q : Place) :
    ∃ rest, consPart part (parts ++ [place q]) = rest ++ [place q] := by
  rcases part with _ | a | _ | _ | _ | _ | _ | _
  case literal =>
    rcases parts with _ | ⟨_ | b | _ | _ | _ | _ | _ | _, parts⟩
    case cons.literal => exact ⟨literal (a ++ b) :: parts, rfl⟩
    case nil => exact ⟨[literal a], rfl⟩
    all_goals exact ⟨literal a :: _ :: parts, rfl⟩
  all_goals exact ⟨_ :: parts, rfl⟩

lemma foldr_consPart_place (parts : List Tree) (q : Place) :
    ∃ rest, (parts ++ [place q]).foldr consPart [] = rest ++ [place q] := by
  induction parts with
  | nil => exact ⟨[], rfl⟩
  | cons part parts ih =>
    obtain ⟨rest, hrest⟩ := ih
    rw [List.cons_append, List.foldr_cons, hrest]
    exact consPart_append_place part rest q

/-- A pattern between places stays between them. -/
lemma concatAll_places (first last : Place) (tree : Tree) :
    ∃ parts, concatAll [place first, tree, place last] =
      ofParts (place first :: (parts ++ [place last])) := by
  obtain ⟨parts, hparts⟩ := foldr_consPart_place tree.parts last
  refine ⟨parts, ?_⟩
  have hflat : [place first, tree, place last].flatMap Tree.parts =
      place first :: (tree.parts ++ [place last]) := by
    simp [Tree.parts]
  rw [concatAll, hflat, List.foldr_cons, hparts]
  rfl

end Tree

/-- A pattern is compiled from its tree. -/
lemma exists_of_compile? {source : Text} {p : Pattern} (h : compile? source = some p) :
    ∃ x tree, Syntax.ofText? source = some x ∧ x.tree? = some tree ∧
      p = ⟨source, tree.program.1, tree.program.2⟩ := by
  rw [compile?] at h
  obtain ⟨x, hx, h⟩ := Option.bind_eq_some_iff.1 h
  obtain ⟨tree, htree, h⟩ := Option.bind_eq_some_iff.1 h
  obtain ⟨-, h⟩ := Option.ite_none_right_eq_some.1 h
  exact ⟨x, tree, hx, htree, (Option.some.inj h).symm⟩

/-- **A search for a pattern between anchors** finds the whole text or nothing, if the pattern is
one by itself. -/
theorem find?_anchored {source : Text} (hsource : (Syntax.ofText? source).isSome = true)
    {p : Pattern} (hp : compile? (anchored source) = some p) {s : Text} {found : Nat × Nat}
    (h : p.find? s = some found) : found = (0, s.length) := by
  obtain ⟨x, tree, hx, htree, rfl⟩ := exists_of_compile? hp
  obtain ⟨inner, rfl⟩ := ofText?_anchored hsource hx
  obtain ⟨trees, htrees, rfl⟩ := Option.map_eq_some_iff.1 (by simpa only [Syntax.tree?] using htree)
  simp only [Syntax.treesOfAll?, Syntax.tree?] at htrees
  rcases ht : inner.tree? with _ | t <;> rw [ht] at htrees
  · cases htrees
  · obtain rfl : [.place .textStart, t, .place .textEnd] = trees := Option.some.inj htrees
    obtain ⟨parts, hparts⟩ := Tree.concatAll_places .textStart .textEnd t
    rw [hparts] at h
    exact Tree.find_ofParts parts h

end DynamicSql.Pattern
