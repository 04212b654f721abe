import DynamicSql.Pattern
import Mathlib.Data.List.TakeWhile
import Mathlib.Tactic.Lemma

/-!
# Reading patterns that more text follows

What a reader of patterns has read of a text it reads in the same way if more text follows, as long
as the reader has stopped before the end.
-/

namespace DynamicSql.Pattern

/-! ## Blanks -/

/-- What remains of a text that is not empty if another follows. -/
lemma dropWhile_append_of_ne_nil {accepts : Char → Bool} {s : Text} (h : s.dropWhile accepts ≠ [])
    (t : Text) : (s ++ t).dropWhile accepts = s.dropWhile accepts ++ t := by
  rw [List.dropWhile_append, if_neg]
  rwa [List.isEmpty_iff]

lemma takeWhile_append_of_ne_nil {accepts : Char → Bool} {s : Text} (h : s.dropWhile accepts ≠ [])
    (t : Text) : (s ++ t).takeWhile accepts = s.takeWhile accepts := by
  rw [List.takeWhile_append, if_neg]
  intro hlength
  have hsum := congrArg List.length (s.takeWhile_append_dropWhile (p := accepts))
  rw [List.length_append, hlength] at hsum
  exact h (List.eq_nil_of_length_eq_zero (by omega))

namespace Flags

variable {flags : Flags} {accepts : Char → Bool} {comment : Bool} {s taken rest : Text}

lemma spanSpaced_append (h : spanSpaced accepts comment s = (taken, rest)) (hrest : rest ≠ [])
    (t : Text) : spanSpaced accepts comment (s ++ t) = (taken, rest ++ t) := by
  fun_induction spanSpaced accepts comment s generalizing taken with
  | case1 =>
    cases h
    exact absurd rfl hrest
  | case2 | case3 | case4 =>
    rename_i ih
    simp_all [spanSpaced]
  | case5 c s hcomment hmark hblank haccepts taken' rest' hs ih =>
    cases h
    simp_all [spanSpaced]
  | case6 =>
    cases h
    simp_all [spanSpaced]

/-- The characters that lead a text are the same if the text goes on behind them. -/
lemma span_append (h : flags.span accepts s = (taken, rest)) (hrest : rest ≠ []) (t : Text) :
    flags.span accepts (s ++ t) = (taken, rest ++ t) := by
  rw [span] at h ⊢
  by_cases hspaced : flags.spaced = true
  · rw [if_pos hspaced] at h ⊢
    exact spanSpaced_append h hrest t
  · rw [if_neg hspaced] at h ⊢
    cases h
    rw [dropWhile_append_of_ne_nil hrest, takeWhile_append_of_ne_nil hrest]

lemma skip_append (h : flags.skip s ≠ []) (t : Text) : flags.skip (s ++ t) = flags.skip s ++ t := by
  rw [skip, span_append rfl h]
  rfl

/-- What skipping leaves begins with a character that is not skipped. -/
lemma skip_eq_append {c : Char} (h : flags.skip s = c :: rest) (t : Text) :
    flags.skip (s ++ t) = c :: (rest ++ t) := by
  rw [skip_append (by simp [h]), h, List.cons_append]

lemma skip_nil : flags.skip [] = [] := by
  simp [skip, span, spanSpaced]

/-- A text that is skipped as a whole ends inside a comment or not. -/
lemma spanSpaced_append_of_skipped {s : Text}
    (h : (spanSpaced (fun _ => false) comment s).2 = []) (t : Text) :
    ∃ inside, (spanSpaced (fun _ => false) comment (s ++ t)).2 =
      (spanSpaced (fun _ => false) inside t).2 := by
  fun_induction spanSpaced (fun _ => false) comment s with
  | case1 comment => exact ⟨comment, rfl⟩
  | case2 | case3 | case4 =>
    rename_i ih
    simp [spanSpaced, *]
  | case5 => contradiction
  | case6 => cases h

lemma spanSpaced_eq_skipped (h : (spanSpaced accepts comment s).1 = []) :
    spanSpaced accepts comment s = ([], (spanSpaced (fun _ => false) comment s).2) := by
  fun_induction spanSpaced accepts comment s with
  | case1 => rfl
  | case2 | case3 | case4 =>
    rename_i ih
    simp [spanSpaced, *]
  | case5 => cases h
  | case6 => simp_all [spanSpaced]

/-- Where no character is accepted, only blanks are passed. -/
lemma span_eq_skip (h : (flags.span accepts s).1 = []) :
    flags.span accepts s = ([], flags.skip s) := by
  rw [skip, span] at *
  by_cases hspaced : flags.spaced = true
  · rw [if_pos hspaced] at h ⊢
    rw [span, if_pos hspaced]
    exact spanSpaced_eq_skipped h
  · rw [if_neg hspaced] at h ⊢
    rw [span, if_neg hspaced]
    cases s with
    | nil => rfl
    | cons c rest =>
      have hc : ¬ accepts c = true := by simpa using h
      simp [hc]

end Flags

/-! ## Numbers -/

variable {flags : Flags} {s rest : Text}

/-- What is made of the result of a reader that more text does not disturb. -/
lemma map_append {α β : Type} {read read' : Option (α × Text)} (make : α → β) {t : Text}
    (hread : ∀ {a rest}, read = some (a, rest) → read' = some (a, rest ++ t)) {b : β}
    (h : read.map (fun (a, rest) => (make a, rest)) = some (b, rest)) :
    read'.map (fun (a, rest) => (make a, rest)) = some (b, rest ++ t) := by
  obtain ⟨⟨a, rest⟩, ha, heq⟩ := Option.map_eq_some_iff.1 h
  cases heq
  rw [hread ha]
  rfl

lemma takeSpaced?_append {count : Nat} {taken : Text}
    (h : takeSpaced? flags count s = some (taken, rest)) (t : Text) :
    takeSpaced? flags count (s ++ t) = some (taken, rest ++ t) := by
  induction count generalizing s rest taken with
  | zero =>
    cases h
    rfl
  | succ count ih =>
    rw [takeSpaced?] at h ⊢
    split at h
    · cases h
    · rename_i c after hskip
      rw [Flags.skip_eq_append hskip]
      exact map_append (c :: ·) ih h

/-- What stands before a closing brace. -/
lemma braced_append {accepts : Char → Bool} {digits : Text} {c : Char}
    (h : flags.span accepts s = (digits, c :: rest)) (t : Text) :
    flags.span accepts (s ++ t) = (digits, c :: (rest ++ t)) :=
  Flags.span_append h (List.cons_ne_nil c rest) t

lemma readHex?_append {count : Nat} (hcount : count ≠ 0) {l : Literal}
    (h : readHex? flags count s = some (l, rest)) (t : Text) :
    readHex? flags count (s ++ t) = some (l, rest ++ t) := by
  obtain ⟨count, rfl⟩ := Nat.exists_eq_succ_of_ne_zero hcount
  rw [readHex?] at h ⊢
  rcases hskip : flags.skip s with _ | ⟨c, after⟩
  · rw [hskip] at h
    simp [takeSpaced?, Flags.skip_nil] at h
  rw [hskip] at h
  rw [Flags.skip_eq_append hskip]
  by_cases hc : c = '{'
  · subst hc
    simp only at h ⊢
    split at h
    · cases h
    · cases h
    · rename_i hne _ _ _ hspan
      obtain ⟨c, hc, heq⟩ := Option.map_eq_some_iff.1 h
      cases heq
      simp only [braced_append hspan, hc, Option.map_some]
  · split at h
    · rename_i heq
      exact absurd (List.cons.inj heq).1 hc
    obtain ⟨⟨digits, more⟩, hdigits, h⟩ := Option.bind_eq_some_iff.1 h
    obtain ⟨c, hc, h⟩ := Option.bind_eq_some_iff.1 h
    cases h
    have htaken := takeSpaced?_append hdigits t
    simp_all

lemma trimStart_append (h : Text.trimStart s ≠ []) (t : Text) :
    Text.trimStart (s ++ t) = Text.trimStart s ++ t :=
  dropWhile_append_of_ne_nil h t

lemma span_nil (accepts : Char → Bool) : flags.span accepts [] = ([], []) := by
  simp [Flags.span, Flags.spanSpaced]

lemma readCount?_append {n : Nat} (h : readCount? flags s = some (n, rest)) (hrest : rest ≠ [])
    (t : Text) : readCount? flags (s ++ t) = some (n, rest ++ t) := by
  rw [readCount?] at h ⊢
  split at h
  · cases h
  rename_i digits after hdigits hspan
  obtain ⟨hlt, h⟩ := Option.ite_none_right_eq_some.1 h
  cases h
  have hafter : after ≠ [] := by
    rintro rfl
    exact hrest rfl
  have hstart : Text.trimStart s ≠ [] := by
    intro hnil
    rw [hnil, span_nil] at hspan
    cases hspan
    exact hafter rfl
  rw [trimStart_append hstart, Flags.span_append hspan hafter]
  split
  · simp_all
  · rename_i heq
    cases heq
    rw [trimStart_append hrest]
    exact if_pos hlt

/-! ## Escapes -/

lemma readDescription?_append {text : Text} (h : readDescription? flags s = some (text, rest))
    (t : Text) : readDescription? flags (s ++ t) = some (text, rest ++ t) := by
  rw [readDescription?] at h ⊢
  split at h
  · rename_i hskip
    rw [Flags.skip_eq_append hskip]
    split at h
    · cases h
    · rename_i hspan
      cases h
      simp only [braced_append hspan]
  · cases h
  · cases h
  · rename_i c _ hbrace hslash hskip
    cases h
    rw [Flags.skip_eq_append hskip]
    split
    · simp_all
    · simp_all
    · simp_all
    · simp_all

/-- The end of the text in which a pattern stands: what closes its group, and the last anchor. -/
def closing : Text := [')', '$']

lemma readEdge?_append {edge : WordEdge} (h : readEdge? flags s = some (edge, rest)) :
    readEdge? flags (s ++ closing) = some (edge, rest ++ closing) := by
  rcases s with _ | ⟨c, after⟩
  · cases h
    rfl
  by_cases hc : c = '{'
  · subst hc
    simp only [readEdge?, List.cons_append] at h ⊢
    rcases hskip : flags.skip after with _ | ⟨d, more⟩
    · simp [hskip] at h
    rcases hspan : flags.span (fun c => c.isAlpha || c == '-') after with ⟨name, after'⟩
    have hafter : after' ≠ [] := by
      rintro rfl
      rcases name with _ | ⟨d, name⟩
      · have hsame := Flags.span_eq_skip (congrArg Prod.fst hspan)
        rw [hspan, hskip] at hsame
        cases hsame
      · simp [hskip, hspan] at h
    simp only [hskip, hspan, Flags.skip_eq_append hskip, Flags.span_append hspan hafter] at h ⊢
    split at h
    · cases h
    · cases h
      simp_all
    · simp_all
    · cases h
  · have hplain (u : Text) : readEdge? flags (c :: u) = some (.either, c :: u) := by
      simp [readEdge?, hc]
    rw [hplain] at h
    cases h
    exact hplain _

lemma readEscape?_append {atom : Atom} (h : readEscape? flags s = some (atom, rest)) :
    readEscape? flags (s ++ closing) = some (atom, rest ++ closing) := by
  fun_cases readEscape? flags s with
  | case1 => cases h
  | case10 after =>
    simp only [readEscape?, List.cons_append] at h ⊢
    exact map_append (fun edge => Atom.place (.word edge)) readEdge?_append h
  | case14 after | case15 after | case16 after =>
    simp only [readEscape?, List.cons_append] at h ⊢
    exact map_append Atom.char (readHex?_append (by decide) · closing) h
  | case17 after | case18 after =>
    simp only [readEscape?, List.cons_append] at h ⊢
    exact map_append (fun text => Atom.set (.property _ text)) (readDescription?_append · closing) h
  | case25 c after => simp_all [readEscape?]
  | case26 c after => simp_all [readEscape?]
  | _ =>
    cases h
    rfl

/-! ## Classes -/

/-- A set named between `[:` and `:]`, once it is known whether it is negated. -/
def readClassName? (negated : Bool) (s : Text) : Option (ClassBody × Text) :=
  match s.dropWhile (· != ':') with
  | ':' :: ']' :: after =>
    (asciiNames.lookup (String.ofList (s.takeWhile (· != ':')))).map
      fun set => (.ascii negated set, after)
  | _ => none

lemma readClassName?_append (negated : Bool) (s : Text) :
    readClassName? negated (s ++ closing) =
      (readClassName? negated s).map fun (body, rest) => (body, rest ++ closing) := by
  by_cases hnil : s.dropWhile (· != ':') = []
  · have hclosing : (s ++ closing).dropWhile (· != ':') = [] := by
      rw [List.dropWhile_append, hnil]
      rfl
    simp [readClassName?, hnil, hclosing]
  fun_cases readClassName? negated s with
  | case1 after hname =>
    simp [readClassName?, dropWhile_append_of_ne_nil hnil, takeWhile_append_of_ne_nil hnil, hname,
      Function.comp_def]
  | case2 hnone =>
    rw [readClassName?, dropWhile_append_of_ne_nil hnil]
    split
    · rename_i after heq
      rcases hrest : s.dropWhile (· != ':') with _ | ⟨d, _ | ⟨e, more⟩⟩
      · exact absurd hrest hnil
      · simp [hrest, closing] at heq
      · simp_all
    · rfl

/-- A set with a name is read where it was, and nowhere else. -/
lemma readNamedClass?_append (s : Text) : readNamedClass? (s ++ closing) =
    (readNamedClass? s).map fun (body, rest) => (body, rest ++ closing) := by
  rcases s with _ | ⟨c, s⟩
  · rfl
  by_cases hc : c = ':'
  · subst hc
    rcases s with _ | ⟨d, s⟩
    · rfl
    by_cases hd : d = '^'
    · subst hd
      exact readClassName?_append true s
    · have hplain (u : Text) : readNamedClass? (':' :: d :: u) = readClassName? false (d :: u) := by
        simp [readNamedClass?, hd]
        rfl
      rw [List.cons_append, List.cons_append, hplain, hplain]
      exact readClassName?_append false (d :: s)
  · simp [readNamedClass?, hc]

lemma readClassAtom?_append {atom : Atom} (h : readClassAtom? flags s = some (atom, rest)) :
    readClassAtom? flags (s ++ closing) = some (atom, rest ++ closing) := by
  fun_cases readClassAtom? flags s with
  | case1 => cases h
  | case2 after => exact readEscape?_append h
  | case3 c after hslash => simp_all [readClassAtom?]

lemma look_append {comment : Bool} {c : Char} (h : Flags.afterHyphen.look comment s = some c)
    (t : Text) : Flags.afterHyphen.look comment (s ++ t) = some c := by
  induction s generalizing comment with
  | nil => cases h
  | cons d s ih =>
    simp only [Flags.afterHyphen.look, List.cons_append] at h ⊢
    split
    · rename_i hblank
      rw [if_pos hblank] at h
      exact ih h
    · rename_i hblank
      rw [if_neg hblank] at h
      split
      · rename_i hmark
        rw [if_pos hmark] at h
        exact ih h
      · rename_i hmark
        rwa [if_neg hmark] at h

/-- Where nothing decides what a hyphen makes, only blanks and a mark of a comment follow. -/
lemma skipped_of_look {comment : Bool} (h : Flags.afterHyphen.look comment s = none)
    (inside : Bool) : (Flags.spanSpaced (fun _ => false) inside s).2 = [] := by
  fun_induction Flags.afterHyphen.look comment s generalizing inside with
  | case1 => rfl
  | case2 comment c rest hblank ih =>
    simp only [Flags.spanSpaced, hblank, if_true]
    split
    · exact ih h _
    · split
      · exact ih h _
      · exact ih h _
  | case3 comment c rest hblank hmark ih =>
    obtain rfl : c = '#' := by simp_all
    simp only [Flags.spanSpaced]
    split
    · exact ih h _
    · exact ih h _
  | case4 => cases h

/-- The character behind a hyphen is the same if more text follows, unless there is none. -/
lemma afterHyphen_append {after : Text} (h : flags.skip after ≠ [] ∨
    (flags.afterHyphen after == some ']' || flags.afterHyphen after == some '-') = true) (t : Text) :
    flags.afterHyphen (after ++ t) = flags.afterHyphen after := by
  by_cases hspaced : flags.spaced = true
  · simp only [Flags.afterHyphen, if_pos hspaced] at h ⊢
    rcases hlook : Flags.afterHyphen.look false after with _ | c
    · have hskip : flags.skip after = [] := by
        rw [Flags.skip, Flags.span, if_pos hspaced]
        exact skipped_of_look hlook false
      have hsign : after.head? = some ']' ∨ after.head? = some '-' := by
        simpa [hlook, hskip] using h
      rcases after with _ | ⟨c, after⟩
      · simp at hsign
      · obtain rfl | rfl : c = ']' ∨ c = '-' := by simpa using hsign
        · cases hlook.symm.trans (rfl : Flags.afterHyphen.look false (']' :: after) = some ']')
        · cases hlook.symm.trans (rfl : Flags.afterHyphen.look false ('-' :: after) = some '-')
    · rw [look_append hlook, Option.some_or, Option.some_or]
  · simp only [Flags.afterHyphen, if_neg hspaced] at h ⊢
    rcases after with _ | ⟨c, after⟩
    · simp [Flags.skip_nil] at h
    · rfl

lemma readClassRange?_append {item : ClassBody} (h : readClassRange? flags s = some (item, rest)) :
    readClassRange? flags (s ++ closing) = some (item, rest ++ closing) := by
  rw [readClassRange?] at h ⊢
  obtain ⟨⟨first, more⟩, hfirst, h⟩ := Option.bind_eq_some_iff.1 h
  simp only [readClassAtom?_append hfirst, Option.bind_eq_bind, Option.bind_some] at h ⊢
  split at h
  · rename_i after hskip
    rw [Flags.skip_eq_append hskip]
    split at h
    · rename_i hsign
      simp only [afterHyphen_append (.inr hsign), hsign, if_true]
      obtain ⟨body, hbody, heq⟩ := Option.map_eq_some_iff.1 h
      cases heq
      rw [hbody]
      rfl
    · rename_i hsign
      obtain ⟨⟨last, rest⟩, hlast, h⟩ := Option.bind_eq_some_iff.1 h
      have hafter : flags.skip after ≠ [] := by
        intro hnil
        rw [hnil] at hlast
        cases hlast
      simp only [afterHyphen_append (.inl hafter), hsign, Bool.false_eq_true, if_false,
        Flags.skip_append hafter, readClassAtom?_append hlast, Option.bind_some]
      dsimp only at h
      split at h
      · obtain ⟨hle, h⟩ := Option.ite_none_right_eq_some.1 h
        cases h
        exact if_pos hle
      · cases h
  · cases h
  · rename_i hhyphen hnil
    obtain ⟨body, hbody, heq⟩ := Option.map_eq_some_iff.1 h
    cases heq
    rcases hskip : flags.skip rest with _ | ⟨c, after⟩
    · exact absurd hskip hnil
    rw [Flags.skip_eq_append hskip, hbody]
    split
    · simp_all
    · simp_all
    · rfl

lemma readHyphens_append {hyphens : List ClassBody} (h : readHyphens flags s = (hyphens, rest))
    (hrest : rest ≠ []) (t : Text) : readHyphens flags (s ++ t) = (hyphens, rest ++ t) := by
  rw [readHyphens] at h ⊢
  cases h
  rw [Flags.span_append rfl hrest]

lemma readClassLead_append {items : List ClassBody} (h : readClassLead flags s = (items, rest))
    (hrest : rest ≠ []) (t : Text) : readClassLead flags (s ++ t) = (items, rest ++ t) := by
  rw [readClassLead] at h ⊢
  split at h
  · rename_i after hlead
    cases h
    rw [readHyphens_append hlead (List.cons_ne_nil _ _), List.cons_append]
    simp only [Flags.skip_append hrest]
  · rename_i hyphens after hplain hlead
    cases h
    rw [readHyphens_append hlead hrest]
    split
    · rename_i after heq
      rcases rest with _ | ⟨c, rest⟩
      · exact absurd rfl hrest
      · simp_all
    · rename_i heq
      exact heq.symm

lemma ne_nil_of_readClassItems? {fuel : Nat} {pending : Option (SetOperator × ClassBody)}
    {items : List ClassBody} {body : ClassBody}
    (h : readClassItems? fuel flags pending items s = some (body, rest)) : flags.skip s ≠ [] := by
  intro hnil
  cases fuel with
  | zero => simp [readClassItems?] at h
  | succ fuel => simp [readClassItems?, hnil] at h

/-- A class is an inside, perhaps after a circumflex. -/
lemma readClass?_eq_some_iff {fuel : Nat} {negated : Bool} {body : ClassBody} :
    readClass? (fuel + 1) flags s = some (negated, body, rest) ↔
      ∃ inside, (flags.skip s = (if negated then '^' :: inside else inside) ∧
          (negated = false → ∀ after, inside ≠ '^' :: after)) ∧
        readClassItems? fuel flags none (readClassLead flags inside).1
          (readClassLead flags inside).2 = some (body, rest) := by
  have hbind (lead : Bool × Text) :
      ((readClassItems? fuel flags none (readClassLead flags lead.2).1
        (readClassLead flags lead.2).2).bind fun (body, rest) => some (lead.1, body, rest)) =
          some (negated, body, rest) ↔
        lead.1 = negated ∧ readClassItems? fuel flags none (readClassLead flags lead.2).1
          (readClassLead flags lead.2).2 = some (body, rest) := by
    rw [Option.bind_eq_some_iff]
    constructor
    · rintro ⟨⟨body, rest⟩, hread, heq⟩
      cases heq
      exact ⟨rfl, hread⟩
    · rintro ⟨rfl, hread⟩
      exact ⟨_, hread, rfl⟩
  rw [readClass?]
  split
  rename_i lead negated' inside hlead
  refine (hbind (negated', inside)).trans ?_
  split at hlead
  · rename_i after hskip
    cases hlead
    rw [hskip]
    cases negated
    · simp
    · simp
  · rename_i hplain
    cases hlead
    cases negated
    · constructor
      · rintro ⟨-, hread⟩
        exact ⟨_, ⟨rfl, fun _ => hplain⟩, hread⟩
      · rintro ⟨inside, ⟨hskip, -⟩, hread⟩
        obtain rfl : flags.skip s = inside := hskip
        exact ⟨rfl, hread⟩
    · constructor
      · rintro ⟨hnegated, -⟩
        cases hnegated
      · rintro ⟨inside, ⟨hskip, -⟩, -⟩
        exact (hplain inside hskip).elim

/-- The first character of a text is the same if more text follows. -/
lemma exists_of_append_eq_cons {t after : Text} {c : Char} (hs : s ≠ []) (h : s ++ t = c :: after) :
    ∃ rest, s = c :: rest := by
  rcases s with _ | ⟨d, s⟩
  · exact absurd rfl hs
  · exact ⟨s, congrArg (· :: s) (List.cons.inj h).1⟩

/-- Two equal characters that lead a text have led it before, unless they are parentheses. -/
lemma exists_of_append_eq_pair {after : Text} {c : Char} (hs : s ≠ []) (hc : c ≠ ')')
    (h : s ++ closing = c :: c :: after) : ∃ rest, s = c :: c :: rest := by
  rcases s with _ | ⟨d, _ | ⟨e, s⟩⟩
  · exact absurd rfl hs
  · cases h
    exact absurd rfl hc
  · cases h
    exact ⟨s, rfl⟩

/-- A text that begins with no operator, no class and no end of a class: it begins with a range. -/
structure BeginsRange (s : Text) : Prop where
  /-- There is a text. -/
  ne_nil : s ≠ []
  /-- The class does not end. -/
  not_closing : ∀ rest, s ≠ ']' :: rest
  /-- There is no intersection. -/
  not_inter : ∀ rest, s ≠ '&' :: '&' :: rest
  /-- There is no difference. -/
  not_diff : ∀ rest, s ≠ '-' :: '-' :: rest
  /-- There is no symmetric difference. -/
  not_symmDiff : ∀ rest, s ≠ '~' :: '~' :: rest
  /-- No class begins. -/
  not_opening : ∀ rest, s ≠ '[' :: rest

lemma BeginsRange.append (h : BeginsRange s) : BeginsRange (s ++ closing) where
  ne_nil := fun heq => h.ne_nil (List.append_eq_nil_iff.1 heq).1
  not_closing := fun _ heq =>
    have ⟨rest, hs⟩ := exists_of_append_eq_cons h.ne_nil heq
    h.not_closing rest hs
  not_inter := fun _ heq =>
    have ⟨rest, hs⟩ := exists_of_append_eq_pair h.ne_nil (by decide) heq
    h.not_inter rest hs
  not_diff := fun _ heq =>
    have ⟨rest, hs⟩ := exists_of_append_eq_pair h.ne_nil (by decide) heq
    h.not_diff rest hs
  not_symmDiff := fun _ heq =>
    have ⟨rest, hs⟩ := exists_of_append_eq_pair h.ne_nil (by decide) heq
    h.not_symmDiff rest hs
  not_opening := fun _ heq =>
    have ⟨rest, hs⟩ := exists_of_append_eq_cons h.ne_nil heq
    h.not_opening rest hs

/-- A range is read and then the other items. -/
lemma readClassItems?_of_range {fuel : Nat} {pending : Option (SetOperator × ClassBody)}
    {items : List ClassBody} (h : BeginsRange (flags.skip s)) :
    readClassItems? (fuel + 1) flags pending items s =
      (readClassRange? flags (flags.skip s)).bind fun (item, rest) =>
        readClassItems? fuel flags pending (item :: items) rest := by
  rw [readClassItems?]
  split
  case h_1 hs => exact (h.ne_nil hs).elim
  case h_2 hs => exact (h.not_closing _ hs).elim
  case h_3 hs => exact (h.not_inter _ hs).elim
  case h_4 hs => exact (h.not_diff _ hs).elim
  case h_5 hs => exact (h.not_symmDiff _ hs).elim
  case h_6 hs => exact (h.not_opening _ hs).elim
  case h_7 =>
    rcases readClassRange? flags (flags.skip s) with _ | _
    · rfl
    · rfl

/-- A class is read alike with these steps and, with a closing behind it, with those. -/
def ClassFollowed (flags : Flags) (fuel more : Nat) : Prop :=
  ∀ {s rest : Text} {negated : Bool} {body : ClassBody},
    readClass? fuel flags s = some (negated, body, rest) →
      readClass? more flags (s ++ closing) = some (negated, body, rest ++ closing)

/-- The items of a class are. -/
def ItemsFollowed (flags : Flags) (fuel more : Nat) : Prop :=
  ∀ {s rest : Text} {pending : Option (SetOperator × ClassBody)} {items : List ClassBody}
    {body : ClassBody},
    readClassItems? fuel flags pending items s = some (body, rest) →
      readClassItems? more flags pending items (s ++ closing) = some (body, rest ++ closing)

/-- A class is read with its items. -/
lemma ItemsFollowed.classFollowed {fuel more : Nat} (hitems : ItemsFollowed flags fuel more) :
    ClassFollowed flags (fuel + 1) (more + 1) := by
  intro s rest negated body h
  rw [readClass?_eq_some_iff] at h ⊢
  obtain ⟨inside, ⟨hskip, hplain⟩, hread⟩ := h
  have hlead : (readClassLead flags inside).2 ≠ [] := by
    intro hnil
    exact ne_nil_of_readClassItems? hread (by rw [hnil, Flags.skip_nil])
  have hinside : inside ≠ [] := by
    rintro rfl
    exact hlead (by simp [readClassLead, readHyphens, span_nil])
  refine ⟨inside ++ closing, ⟨?_, fun hnegated after heq => ?_⟩, ?_⟩
  · rw [Flags.skip_append (by rw [hskip]; split <;> simp [hinside]), hskip]
    split
    · rfl
    · rfl
  · obtain ⟨after, hafter⟩ := exists_of_append_eq_cons hinside heq
    exact hplain hnegated after hafter
  · rw [readClassLead_append rfl hlead]
    exact hitems hread

/-- An item is read, perhaps a class with its own items, and then the others. -/
lemma ItemsFollowed.succ {fuel more : Nat} (hitems : ItemsFollowed flags fuel more)
    (hclass : ClassFollowed flags fuel more) : ItemsFollowed flags (fuel + 1) (more + 1) := by
  intro s rest pending items body h
  have hskip := ne_nil_of_readClassItems? h
  by_cases hrange : BeginsRange (flags.skip s)
  · rw [readClassItems?_of_range hrange, Option.bind_eq_some_iff] at h
    obtain ⟨⟨item, after⟩, hitem, h⟩ := h
    have hrange' : BeginsRange (flags.skip (s ++ closing)) := by
      rw [Flags.skip_append hskip]
      exact hrange.append
    rw [readClassItems?_of_range hrange', Flags.skip_append hskip, readClassRange?_append hitem]
    exact hitems h
  · rw [readClassItems?] at h ⊢
    rw [Flags.skip_append hskip]
    split at h
    case h_1 => cases h
    case h_2 hs =>
      rw [hs]
      cases h
      rfl
    case h_3 hs | h_4 hs | h_5 hs =>
      rw [hs]
      exact hitems h
    case h_6 after hs =>
      rw [hs, List.cons_append]
      simp only [readNamedClass?_append]
      split at h
      · rename_i hnamed
        simp only [hnamed, Option.map_some]
        exact hitems h
      · rename_i hnamed
        split at h
        · cases h
        · rename_i hbody
          simp only [hnamed, Option.map_none, hclass hbody]
          exact hitems h
    case h_7 hnil hclosing hinter hdiff hsymm hopening =>
      exact (hrange ⟨hnil, hclosing, hinter, hdiff, hsymm, hopening⟩).elim

/-- **A class** is read up to its closing bracket, whatever follows and however many steps more are
allowed. The induction is on the steps, over classes and their items together. -/
theorem readClass?_append {fuel more : Nat} (hle : fuel ≤ more) :
    ClassFollowed flags fuel more ∧ ItemsFollowed flags fuel more := by
  induction fuel generalizing more with
  | zero => exact ⟨fun h => by simp [readClass?] at h, fun h => by simp [readClassItems?] at h⟩
  | succ fuel ih =>
    obtain ⟨more, rfl⟩ := Nat.exists_eq_succ_of_ne_zero (Nat.ne_zero_of_lt hle)
    obtain ⟨hclass, hitems⟩ := ih (Nat.le_of_succ_le_succ hle)
    exact ⟨hitems.classFollowed, hitems.succ hclass⟩

end DynamicSql.Pattern
