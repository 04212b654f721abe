import DynamicSql.Proofs.Pattern.Following

/-!
# Reading groups that are closed

A pattern that can be read as a whole is read in the same way inside a group. The parenthesis that
closes this group is read as none of the pattern's own, since each of these has been closed before
the pattern ends; only a comment at the end of the pattern may swallow it.

* `Followed`: what a reader has before it, without the closing and with it.
* `readRepetition?_followed`, `readPart_followed`: one step of the reader.
* `groupFollowed`: all steps of the reader, by induction on their number.
-/

namespace DynamicSql.Pattern

variable {flags : Flags} {s rest : Text}

/-! ## Groups -/

/-- The start of a group with more text behind it. -/
def GroupStart.append (t : Text) : GroupStart → GroupStart
  | .flags flags rest => .flags flags (rest ++ t)
  | .group flags rest => .group flags (rest ++ t)
  | .named name rest => .named name (rest ++ t)

lemma readFlags?_append {seen : Text} {off dangling : Bool} {start : GroupStart}
    (h : readFlags? flags seen off dangling s = some start) (t : Text) :
    readFlags? flags seen off dangling (s ++ t) = some (start.append t) := by
  fun_induction readFlags? flags seen off dangling s with
  | case1 | case2 | case4 | case6 | case8 | case9 => cases h
  | case3 | case5 =>
    cases h
    simp_all [readFlags?, GroupStart.append]
  | case7 | case10 =>
    rename_i ih
    simp_all [readFlags?]

lemma readGroupName?_append {start : GroupStart} (h : readGroupName? s = some start) (t : Text) :
    readGroupName? (s ++ t) = some (start.append t) := by
  have hne : s.dropWhile (· != '>') ≠ [] := by
    intro hnil
    simp [readGroupName?, hnil] at h
  simp only [readGroupName?] at h ⊢
  rw [takeWhile_append_of_ne_nil hne, dropWhile_append_of_ne_nil hne]
  split at h
  · rename_i hname hrest
    obtain ⟨hletters, h⟩ := Option.ite_none_right_eq_some.1 h
    cases h
    simp only [hname, hrest, List.cons_append]
    exact if_pos hletters
  · cases h

lemma readGroupStart?_append {start : GroupStart} (h : readGroupStart? flags s = some start) :
    readGroupStart? flags (s ++ closing) = some (start.append closing) := by
  fun_cases readGroupStart? flags s with
  | case1 | case2 => cases h
  | case3 rest => exact readGroupName?_append h closing
  | case4 rest heq hbang =>
    rcases rest with _ | ⟨c, rest⟩
    · cases h
    · have hname (u : Text) : readGroupStart? flags ('<' :: c :: u) = readGroupName? (c :: u) := by
        simp_all [readGroupStart?]
      rw [hname] at h
      rw [List.cons_append, List.cons_append, hname]
      exact readGroupName?_append h closing
  | case5 _ _ _ hP =>
    rcases s with _ | ⟨c, s⟩
    · cases h
    have hflags {u : Text} (hP : c = 'P' → ∀ rest, u ≠ '<' :: rest) :
        readGroupStart? flags (c :: u) = readFlags? flags [] false false (c :: u) := by
      simp_all [readGroupStart?]
    have hclosing : c = 'P' → ∀ rest, s ++ closing ≠ '<' :: rest := by
      rintro rfl rest hrest
      rcases s with _ | ⟨d, s⟩
      · cases hrest
      · cases hrest
        exact hP s rfl
    rw [hflags (by rintro rfl rest rfl; exact hP rest rfl)] at h
    rw [List.cons_append, hflags hclosing]
    exact readFlags?_append h closing

/-! ## Repetitions -/

lemma readCount?_nil : readCount? flags [] = none := by
  simp [readCount?, Text.trimStart, span_nil]

lemma readBounds?_append {least : Nat} {most : Option Nat}
    (h : readBounds? flags s = some (least, most, rest)) (t : Text) :
    readBounds? flags (s ++ t) = some (least, most, rest ++ t) := by
  rw [readBounds?] at h ⊢
  obtain ⟨⟨least', more⟩, hleast, h⟩ := Option.bind_eq_some_iff.1 h
  have hskip : flags.skip s ≠ [] := by
    intro hnil
    rw [hnil, readCount?_nil] at hleast
    cases hleast
  have hmore : more ≠ [] := by
    rintro rfl
    cases h
  rw [Flags.skip_append hskip, readCount?_append hleast hmore]
  dsimp only at h
  split at h
  · cases h
    rfl
  · rename_i after
    simp only [List.cons_append, Option.bind_eq_bind, Option.bind_some]
    split at h
    · rename_i hskip
      cases h
      rw [Flags.skip_eq_append hskip]
      rfl
    · rename_i hbrace
      obtain ⟨⟨most', last⟩, hmost, h⟩ := Option.bind_eq_some_iff.1 h
      have hafter : flags.skip after ≠ [] := by
        intro hnil
        rw [hnil, readCount?_nil] at hmost
        cases hmost
      have hlast : last ≠ [] := by
        rintro rfl
        cases h
      rw [Flags.skip_append hafter]
      dsimp only at h
      split
      · rename_i heq
        obtain ⟨rest, hrest⟩ := exists_of_append_eq_cons hafter heq
        exact (hbrace rest hrest).elim
      · rw [readCount?_append hmost hlast, Option.bind_some]
        split at h
        · obtain ⟨hle, h⟩ := Option.ite_none_right_eq_some.1 h
          cases h
          exact if_pos hle
        · cases h
  · cases h

/-! ## Texts that the closing follows -/

/-- The second text is the first and then the closing, unless nothing is left of either: then a
comment at the end has swallowed the closing. -/
def Followed (s s' : Text) : Prop := s' = s ++ closing ∨ s = [] ∧ s' = []

lemma followed_skip_closing (h : flags.skip s = []) :
    Followed [] (flags.skip (s ++ closing)) := by
  by_cases hspaced : flags.spaced = true
  · simp only [Flags.skip, Flags.span, if_pos hspaced] at h ⊢
    obtain ⟨inside, heq⟩ := Flags.spanSpaced_append_of_skipped h closing
    rw [heq]
    cases inside
    · exact .inl rfl
    · exact .inr ⟨rfl, rfl⟩
  · rcases s with _ | ⟨c, s⟩
    · simp only [Flags.skip, Flags.span, if_neg hspaced]
      exact .inl rfl
    · simp only [Flags.skip, Flags.span, if_neg hspaced] at h
      cases h

lemma Followed.skip {s' : Text} (h : Followed s s') :
    Followed (flags.skip s) (flags.skip s') := by
  obtain rfl | ⟨rfl, rfl⟩ := h
  · by_cases hskip : flags.skip s = []
    · rw [hskip]
      exact followed_skip_closing hskip
    · exact .inl (Flags.skip_append hskip closing)
  · exact .inr ⟨Flags.skip_nil, Flags.skip_nil⟩

lemma Followed.eq_cons {s' after : Text} {c : Char} (h : Followed (c :: after) s') :
    s' = c :: (after ++ closing) := by
  obtain h | ⟨hnil, -⟩ := h
  · exact h
  · cases hnil

/-- What comes before the closing is led by the same character. -/
lemma Followed.exists_cons {after : Text} {c : Char} (h : Followed s (c :: after)) (hc : c ≠ ')') :
    ∃ rest, s = c :: rest := by
  obtain h | ⟨-, hnil⟩ := h
  · refine exists_of_append_eq_cons ?_ h.symm
    rintro rfl
    exact hc (List.cons.inj h).1
  · cases hnil

/-- The text behind a question mark, if one leads it. -/
def afterQuestion (s : Text) : Text := if s.head? == some '?' then s.tail else s

lemma Followed.question {s' : Text} (h : Followed s s') :
    (s'.head? == some '?') = (s.head? == some '?') ∧
      Followed (afterQuestion s) (afterQuestion s') := by
  obtain rfl | ⟨rfl, rfl⟩ := h
  · rcases s with _ | ⟨c, s⟩
    · exact ⟨rfl, .inl rfl⟩
    · refine ⟨rfl, .inl ?_⟩
      by_cases hc : c = '?' <;> simp [afterQuestion, hc]
  · exact ⟨rfl, .inr ⟨rfl, rfl⟩⟩

/-- The bounds of a repetition are the same if the closing follows. -/
lemma readRepetition?_followed {least : Nat} {most : Option Nat} {c : Char} {after : Text}
    (h : readRepetition? flags (c :: after) = some (some (least, most, rest))) :
    ∃ rest', readRepetition? flags (c :: (after ++ closing)) = some (some (least, most, rest')) ∧
      Followed rest rest' := by
  rw [readRepetition?.eq_def] at h
  split at h
  · rename_i heq
    cases heq
    cases h
    exact ⟨_, rfl, .inl rfl⟩
  · rename_i heq
    cases heq
    cases h
    exact ⟨_, rfl, .inl rfl⟩
  · rename_i heq
    cases heq
    cases h
    exact ⟨_, rfl, .inl rfl⟩
  · rename_i heq
    cases heq
    obtain ⟨⟨least, most, last⟩, hbounds, heq⟩ := Option.map_eq_some_iff.1 (Option.some.inj h)
    cases heq
    exact ⟨_, congrArg some (Option.map_eq_some_iff.2 ⟨_, readBounds?_append hbounds closing, rfl⟩),
      Followed.skip (.inl rfl)⟩
  · cases h

lemma readRepetition?_eq_none {c : Char} {after : Text}
    (h : readRepetition? flags (c :: after) = none) (t : Text) :
    readRepetition? flags (c :: t) = none := by
  rw [readRepetition?.eq_def] at h ⊢
  split at h
  · cases h
  · cases h
  · cases h
  · cases h
  · split <;> simp_all

variable {p q : Progress}

lemma readGroup?_of_repetition {fuel : Nat} {least : Nat} {most : Option Nat} {after : Text}
    (h : readRepetition? p.flags (p.flags.skip s) = some (some (least, most, after))) :
    readGroup? (fuel + 1) p s = (p.repeatLast? least most (after.head? == some '?')).bind
      fun p => readGroup? fuel p (afterQuestion after) := by
  rw [readGroup?]
  simp only [h]
  rcases after with _ | ⟨c, after⟩
  · rcases hp : p.repeatLast? least most false with _ | p <;> simp [afterQuestion, hp]
  · by_cases hc : c = '?'
    · subst hc
      rcases hp : p.repeatLast? least most true with _ | p <;> simp [afterQuestion, hp]
    · have hlazy : (c == '?') = false := by simpa using hc
      rcases hp : p.repeatLast? least most false with _ | p <;>
        simp [afterQuestion, hc, hlazy, hp]

/-- A character without a meaning of its own stands for itself. -/
lemma readGroup?_of_plain {fuel : Nat} {c : Char} {after : Text}
    (hs : p.flags.skip s = c :: after) (hrep : readRepetition? p.flags (c :: after) = none)
    (hc : c ∉ [')', '|', '(', '[', '\\', '.', '^', '$']) :
    readGroup? (fuel + 1) p s =
      readGroup? fuel (p.push ((Atom.plain c).written p.flags)) after := by
  simp only [List.mem_cons, List.not_mem_nil, or_false, not_or] at hc
  rw [readGroup?]
  simp [hs, hrep, hc]

lemma readGroup?_of_class {fuel : Nat} {after : Text} (hs : p.flags.skip s = '[' :: after) :
    readGroup? (fuel + 1) p s =
      (readClass? (2 * after.length + 2) p.flags after).bind fun (negated, body, rest) =>
        readGroup? fuel (p.push (.bracketed p.flags negated body)) rest := by
  rw [readGroup?]
  simp only [hs, readRepetition?]
  rcases readClass? (2 * after.length + 2) p.flags after with _ | _
  · rfl
  · rfl

lemma readGroup?_of_escape {fuel : Nat} {after : Text} (hs : p.flags.skip s = '\\' :: after) :
    readGroup? (fuel + 1) p s = (readEscape? p.flags after).bind fun (atom, rest) =>
      readGroup? fuel (p.push (atom.written p.flags)) rest := by
  rw [readGroup?]
  simp only [hs, readRepetition?]
  rcases readEscape? p.flags after with _ | _
  · rfl
  · rfl

/-- With at most so many steps, a group that is followed is read as it is without what follows. -/
def GroupFollowed (fuel : Nat) : Prop :=
  ∀ {more : Nat}, fuel ≤ more → ∀ {p q : Progress} {s s' rest : Text}, Followed s s' →
    readGroup? fuel p s = some (q, rest) →
      ∃ rest', readGroup? more p s' = some (q, rest') ∧ Followed rest rest'

/-- A nested group is read up to the parenthesis that closes it, and then the rest. -/
lemma readNested_eq_some_iff {fuel : Nat} {index : Option Nat} {inner : Progress}
    {result : Progress × Text} :
    readGroup?.readNested (fuel + 1) p index inner s = some result ↔ ∃ q rest,
      readGroup? fuel { inner with branches := [], parts := [] } s = some (q, ')' :: rest) ∧
      readGroup? fuel { p.push (.group index q.written) with groups := q.groups, names := q.names }
        rest = some result := by
  rw [readGroup?.readNested]
  constructor
  · intro h
    split at h
    · rename_i q rest hinner
      exact ⟨q, rest, hinner, h⟩
    · cases h
  · rintro ⟨q, rest, hinner, h⟩
    simp only [hinner]
    exact h

section

variable {fuel more : Nat} (hle : fuel ≤ more) (hgroup : ∀ k ≤ fuel, GroupFollowed k)
include hle hgroup

/-- A nested group ends before the end of the text, so the closing stays behind it. -/
lemma readNested_followed {s' : Text} {index : Option Nat} {inner : Progress} (hs : Followed s s')
    (h : readGroup?.readNested fuel p index inner s = some (q, rest)) :
    ∃ rest', readGroup?.readNested more p index inner s' = some (q, rest') ∧
      Followed rest rest' := by
  obtain _ | fuel := fuel
  · simp [readGroup?.readNested] at h
  obtain ⟨more, rfl⟩ := Nat.exists_eq_succ_of_ne_zero (Nat.ne_zero_of_lt hle)
  have hle' := Nat.le_of_succ_le_succ hle
  obtain ⟨nested, behind, hinner, h⟩ := readNested_eq_some_iff.1 h
  obtain ⟨behind', hinner', hbehind⟩ := hgroup fuel (Nat.le_succ fuel) hle' hs hinner
  rw [hbehind.eq_cons] at hinner'
  obtain ⟨rest', hrest', hfollowed⟩ := hgroup fuel (Nat.le_succ fuel) hle' (.inl rfl) h
  exact ⟨rest', readNested_eq_some_iff.2 ⟨nested, _, hinner', hrest'⟩, hfollowed⟩

/-- What an opening parenthesis opens. -/
lemma readOpened_followed {after : Text}
    (hrep : readRepetition? p.flags ('(' :: after) = none) (hs : p.flags.skip s = '(' :: after)
    {s' : Text} (hs' : p.flags.skip s' = '(' :: (after ++ closing))
    (h : readGroup? (fuel + 1) p s = some (q, rest)) :
    ∃ rest', readGroup? (more + 1) p s' = some (q, rest') ∧ Followed rest rest' := by
  have hrep' := readRepetition?_eq_none hrep (after ++ closing)
  rw [readGroup?] at h ⊢
  simp only [hs, hs', hrep, hrep'] at h ⊢
  split at h
  · rename_i start hquestion
    simp only [Flags.skip_eq_append hquestion]
    split at h
    · cases h
    · rename_i hstart
      rw [readGroupStart?_append hstart]
      exact hgroup fuel le_rfl hle (.inl rfl) h
    · rename_i hstart
      rw [readGroupStart?_append hstart]
      exact readNested_followed hle hgroup (.inl rfl) h
    · rename_i hstart
      rw [readGroupStart?_append hstart]
      obtain ⟨hname, h⟩ := Option.ite_none_left_eq_some.1 h
      simp only [GroupStart.append, if_neg hname]
      exact readNested_followed hle hgroup (.inl rfl) h
  · rename_i hplain
    have hskip : Followed (p.flags.skip after) (p.flags.skip (after ++ closing)) :=
      Followed.skip (.inl rfl)
    split
    · rename_i hquestion
      rw [hquestion] at hskip
      obtain ⟨rest, hrest⟩ := hskip.exists_cons (by decide)
      exact (hplain rest hrest).elim
    · exact readNested_followed hle hgroup hskip h

/-- What a character begins that is no repetition. -/
lemma readPart_followed {c : Char} {after : Text}
    (hrep : readRepetition? p.flags (c :: after) = none) (hs : p.flags.skip s = c :: after)
    {s' : Text} (hs' : p.flags.skip s' = c :: (after ++ closing))
    (h : readGroup? (fuel + 1) p s = some (q, rest)) :
    ∃ rest', readGroup? (more + 1) p s' = some (q, rest') ∧ Followed rest rest' := by
  have hgo {p : Progress} {s : Text} (h : readGroup? fuel p s = some (q, rest)) :
      ∃ rest', readGroup? more p (s ++ closing) = some (q, rest') ∧ Followed rest rest' :=
    hgroup fuel le_rfl hle (.inl rfl) h
  have hrep' := readRepetition?_eq_none hrep (after ++ closing)
  by_cases hplain : c ∉ [')', '|', '(', '[', '\\', '.', '^', '$']
  · rw [readGroup?_of_plain hs hrep hplain] at h
    rw [readGroup?_of_plain hs' hrep' hplain]
    exact hgo h
  by_cases hopen : c = '('
  · subst hopen
    exact readOpened_followed hle hgroup hrep hs hs' h
  by_cases hclass : c = '['
  · subst hclass
    rw [readGroup?_of_class hs, Option.bind_eq_some_iff] at h
    obtain ⟨⟨negated, body, behind⟩, hbody, h⟩ := h
    have hsteps : 2 * after.length + 2 ≤ 2 * (after ++ closing).length + 2 := by
      rw [List.length_append]
      omega
    rw [readGroup?_of_class hs', (readClass?_append hsteps).1 hbody]
    exact hgo h
  by_cases hescape : c = '\\'
  · subst hescape
    rw [readGroup?_of_escape hs, Option.bind_eq_some_iff] at h
    obtain ⟨⟨atom, behind⟩, hatom, h⟩ := h
    rw [readGroup?_of_escape hs', readEscape?_append hatom]
    exact hgo h
  have hsign : c = ')' ∨ c = '|' ∨ c = '.' ∨ c = '^' ∨ c = '$' := by
    simpa [hopen, hclass, hescape] using not_not.1 hplain
  rw [readGroup?] at h ⊢
  simp only [hs, hs', hrep, hrep'] at h ⊢
  obtain rfl | rfl | rfl | rfl | rfl := hsign
  · cases h
    exact ⟨_, rfl, .inl rfl⟩
  · exact hgo h
  · exact hgo h
  · exact hgo h
  · exact hgo h

end

/-- **A group** is read up to its closing parenthesis or to the end, and then up to the closing. -/
theorem groupFollowed (fuel : Nat) : GroupFollowed fuel := by
  induction fuel using Nat.strong_induction_on with
  | _ fuel ih =>
    intro more hle p q s s' rest hs h
    obtain _ | fuel := fuel
    · simp [readGroup?] at h
    obtain ⟨more, rfl⟩ := Nat.exists_eq_succ_of_ne_zero (Nat.ne_zero_of_lt hle)
    have hle' := Nat.le_of_succ_le_succ hle
    have hgroup : ∀ k ≤ fuel, GroupFollowed k := fun k hk => ih k (Nat.lt_succ_of_le hk)
    have hskip : Followed (p.flags.skip s) (p.flags.skip s') := hs.skip
    rcases hu : p.flags.skip s with _ | ⟨c, after⟩
    · rw [readGroup?, hu] at h
      cases h
      rw [readGroup?]
      rw [hu] at hskip
      obtain hu' | ⟨-, hu'⟩ := hskip
      · rw [hu']
        exact ⟨closing, rfl, .inl rfl⟩
      · rw [hu']
        exact ⟨[], rfl, .inr ⟨rfl, rfl⟩⟩
    rw [hu] at hskip
    have hu' := hskip.eq_cons
    rcases hrep : readRepetition? p.flags (c :: after) with _ | _ | ⟨least, most, behind⟩
    · exact readPart_followed hle' hgroup hrep hu hu' h
    · rw [readGroup?, hu] at h
      simp [hrep] at h
    · rw [readGroup?_of_repetition (hu ▸ hrep)] at h
      obtain ⟨p, hp, h⟩ := Option.bind_eq_some_iff.1 h
      obtain ⟨behind', hrep', hbehind⟩ := readRepetition?_followed hrep
      obtain ⟨hquestion, hafter⟩ := hbehind.question
      rw [Nat.succ_eq_add_one, readGroup?_of_repetition (hu' ▸ hrep'), hquestion, hp,
        Option.bind_some]
      exact hgroup fuel le_rfl hle' hafter h

end DynamicSql.Pattern
