import DynamicSql.Pattern
import Mathlib.Data.Nat.Basic
import Mathlib.Order.Basic

/-!
# Searches between the ends of a text

The program of a pattern is made from its end to its start, and every part of it leads on to what
was there before. So in the program of a pattern that ends with a test for the end of the text,
only this test leads to the instruction that accepts, and a search accepts nowhere else.

* `Tree.grows_add`: the instructions of a pattern go on with what they were told to go on with.
* `Program.Sealed.explore_eq`: a search through a sealed program accepts at the end of the text.
* `Tree.find_ofParts`: a pattern between tests for both ends matches a whole text or nothing.
-/

namespace DynamicSql.Pattern

/-! ## Programs that grow -/

/-- The instruction neither accepts nor leads to the one with the given number. -/
def Instruction.Avoids (target : Nat) : Instruction → Prop
  | read _ next | test _ next => next ≠ target
  | branch first second => first ≠ target ∧ second ≠ target
  | accept => False

namespace Program

/-- The second program keeps the instructions of the first, and its others avoid a target. -/
structure Extends (target : Nat) (old new : Program) : Prop where
  /-- No instruction is lost. -/
  size_le : old.size ≤ new.size
  /-- The instructions of the first program stay as they are. -/
  kept : ∀ pc < old.size, new[pc]? = old[pc]?
  /-- The others avoid the target. -/
  added : ∀ pc i, old.size ≤ pc → new[pc]? = some i → i.Avoids target

/-- What has been made of a program: it starts elsewhere than at the target and goes there only
through the instructions that there were before. -/
def Grows (target : Nat) (old : Program) (made : Nat × Program) : Prop :=
  made.1 ≠ target ∧ Extends target old made.2

namespace Extends

variable {target : Nat} {a b c : Program}

lemma refl (a : Program) : Extends target a a where
  size_le := le_rfl
  kept _ _ := rfl
  added pc i hpc hi := by simp [hpc] at hi

lemma trans (hab : Extends target a b) (hbc : Extends target b c) : Extends target a c where
  size_le := hab.size_le.trans hbc.size_le
  kept pc hpc := (hbc.kept pc (hpc.trans_le hab.size_le)).trans (hab.kept pc hpc)
  added pc i hpc hi := by
    by_cases h : pc < b.size
    · exact hab.added pc i hpc (hbc.kept pc h ▸ hi)
    · exact hbc.added pc i (not_lt.1 h) hi

lemma push (hab : Extends target a b) {i : Instruction} (hi : i.Avoids target) :
    Extends target a (b.push i) := by
  refine hab.trans ⟨by simp, fun pc hpc => ?_, fun pc j hpc hj => ?_⟩
  · rw [Array.getElem?_push, if_neg hpc.ne]
  · rw [Array.getElem?_push] at hj
    split at hj
    · exact Option.some.inj hj ▸ hi
    · simp [hpc] at hj

/-- A place that was kept free is filled with an instruction that avoids the target. -/
lemma fill {free i : Instruction} (hab : Extends target (a.push free) b) (hi : i.Avoids target) :
    Extends target a (b.setIfInBounds a.size i) := by
  have hsize : a.size + 1 ≤ b.size := by simpa using hab.size_le
  refine ⟨by simp; omega, fun pc hpc => ?_, fun pc j hpc hj => ?_⟩
  · rw [Array.getElem?_setIfInBounds_ne hpc.ne', hab.kept pc (by simp; omega),
      Array.getElem?_push, if_neg hpc.ne]
  · rw [Array.getElem?_setIfInBounds] at hj
    split at hj
    · rw [if_pos (by omega)] at hj
      exact Option.some.inj hj ▸ hi
    · exact hab.added pc j (by simp; omega) hj

end Extends

lemma Grows.trans {target : Nat} {a b : Program} {made : Nat × Program}
    (hab : Extends target a b) (h : Grows target b made) : Grows target a made :=
  ⟨h.1, hab.trans h.2⟩

/-- A new instruction is a new start. -/
lemma Grows.push {target : Nat} {a b : Program} (hab : Extends target a b) (ha : target < a.size)
    {i : Instruction} (hi : i.Avoids target) : Grows target a (b.size, b.push i) :=
  ⟨(ha.trans_le hab.size_le).ne', hab.push hi⟩

end Program

open Program

namespace Tree

variable {target : Nat}

/-- A branch avoids what both of its sides avoid. -/
lemma avoids_loopBranch (greedy : Bool) {again out : Nat} (hagain : again ≠ target)
    (hout : out ≠ target) : (loopBranch greedy again out).Avoids target := by
  cases greedy
  · exact ⟨hout, hagain⟩
  · exact ⟨hagain, hout⟩

lemma grows_addText (text : Text) {next : Nat} {program : Program} (hnext : next ≠ target)
    (hsize : target < program.size) : Grows target program (addText text next program) := by
  induction text with
  | nil => exact ⟨hnext, .refl _⟩
  | cons c rest ih => exact .push ih.2 hsize ih.1

section

variable {add : Nat → Program → Nat × Program}
  (hadd : ∀ {next program}, next ≠ target → target < Array.size program →
    Grows target program (add next program))
include hadd

lemma grows_addOptions (greedy : Bool) {out : Nat} (hout : out ≠ target) (count : Nat)
    {next : Nat} {program : Program} (hnext : next ≠ target) (hsize : target < program.size) :
    Grows target program (addOptions add greedy out count next program) := by
  induction count generalizing next program with
  | zero => exact ⟨hnext, .refl _⟩
  | succ count ih =>
    obtain ⟨hbody, hextends⟩ := hadd hnext hsize
    obtain ⟨hloop, hpushed⟩ :=
      Grows.push hextends hsize (avoids_loopBranch greedy hbody hout)
    exact .trans hpushed (ih hloop (hsize.trans_le hpushed.size_le))

lemma grows_addCopies (count : Nat) {next : Nat} {program : Program} (hnext : next ≠ target)
    (hsize : target < program.size) : Grows target program (addCopies add count next program) := by
  induction count generalizing next program with
  | zero => exact ⟨hnext, .refl _⟩
  | succ count ih =>
    obtain ⟨hstart, hextends⟩ := hadd hnext hsize
    exact .trans hextends (ih hstart (hsize.trans_le hextends.size_le))

end

/-- **The instructions of a pattern** keep those that were there, neither accept nor lead to a
target, and start elsewhere, if what they go on with is not the target. -/
theorem grows_add (tree : Tree) {next : Nat} {program : Program} (hnext : next ≠ target)
    (hsize : target < program.size) : Grows target program (tree.add next program) := by
  induction tree generalizing next program with
  | empty => exact ⟨hnext, .refl _⟩
  | literal text => exact grows_addText text hnext hsize
  | set _ s => exact .push (.refl _) hsize hnext
  | place p => exact .push (.refl _) hsize hnext
  | capture _ a ih => exact ih hnext hsize
  | concat a b iha ihb =>
    obtain ⟨hstart, hextends⟩ := ihb hnext hsize
    exact .trans hextends (iha hstart (hsize.trans_le hextends.size_le))
  | either a b iha ihb =>
    obtain ⟨hfirst, hextends⟩ := iha hnext hsize
    obtain ⟨hsecond, hboth⟩ := ihb hnext (hsize.trans_le hextends.size_le)
    exact .push (hextends.trans hboth) hsize ⟨hfirst, hsecond⟩
  | repetition least most greedy a ih =>
    cases most with
    | some most =>
      obtain ⟨hstart, hextends⟩ :=
        grows_addOptions ih greedy hnext (most - least) hnext hsize
      exact .trans hextends (grows_addCopies ih least hstart (hsize.trans_le hextends.size_le))
    | none =>
      -- The place of the loop is kept free, since the body has to know its number.
      have hreserved : target < (program.push .accept).size := by
        rw [Array.size_push]
        omega
      obtain ⟨hbody, hextends⟩ := ih hsize.ne' hreserved
      have hbranch := avoids_loopBranch greedy hbody hnext
      have hfilled := hextends.fill hbranch
      simp only [add]
      split
      · split
        · exact ⟨hsize.ne', hfilled⟩
        · exact .push hfilled hsize hbranch
      · exact .trans hfilled
          (grows_addCopies ih (least - 1) hbody (hsize.trans_le hfilled.size_le))

end Tree

/-! ## Sealed programs -/

namespace Program

/-- Only the first instruction accepts, and only a test for the end of the text leads to it. -/
structure Sealed (program : Program) : Prop where
  /-- The first instruction accepts. -/
  accepts : program[0]? = some .accept
  /-- The others do not, and lead to it only at the end of the text. -/
  guards : ∀ pc i, pc ≠ 0 → program[pc]? = some i → i = .test .textEnd 0 ∨ i.Avoids 0

lemma Sealed.size_pos {program : Program} (h : program.Sealed) : 0 < program.size := by
  obtain ⟨hlt, -⟩ := Array.getElem?_eq_some_iff.1 h.accepts
  exact hlt

/-- What leads on to a sealed program leaves it sealed. -/
lemma Sealed.of_extends {old new : Program} (hold : old.Sealed) (h : Extends 0 old new) :
    new.Sealed where
  accepts := (h.kept 0 hold.size_pos).trans hold.accepts
  guards pc i hne hi := by
    by_cases hpc : pc < old.size
    · exact hold.guards pc i hne (h.kept pc hpc ▸ hi)
    · exact .inr (h.added pc i (not_lt.1 hpc) hi)

/-- The instructions of a sealed program, if they do not accept. -/
lemma Sealed.guard {program : Program} (h : program.Sealed) {pc : Nat} {i : Instruction}
    (hi : program[pc]? = some i) (hne : i ≠ .accept) : i = .test .textEnd 0 ∨ i.Avoids 0 := by
  refine h.guards pc i ?_ hi
  rintro rfl
  exact hne (Option.some.inj (hi.symm.trans h.accepts))

/-- A place in a text of the given length, which is its end if the first instruction is next. -/
def Waits (total : Nat) (entry : Nat × Cursor) : Prop :=
  entry.2.position + entry.2.after.length = total ∧ (entry.1 = 0 → entry.2.after = [])

/-- **A search through a sealed program** accepts at the end of the text: all places on the stack
are places of the text, and the first instruction is next only at its end. -/
theorem Sealed.explore_eq {program : Program} (hsealed : program.Sealed) {total width fuel : Nat}
    {seen : Array Bool} {stack : List (Nat × Cursor)} {stop : Nat}
    (hstack : ∀ entry ∈ stack, Waits total entry)
    (h : explore program width fuel seen stack = some stop) : stop = total := by
  fun_induction explore program width fuel seen stack with
  | case1 | case2 => cases h
  | case3 | case4 | case6 | case8 | case10 =>
    -- The search goes on with the rest of the stack.
    rename_i ih
    exact ih (List.forall_mem_cons.1 hstack).2 h
  | case5 _ _ pc cursor _ _ _ haccept =>
    obtain ⟨⟨hplace, hend⟩, -⟩ := List.forall_mem_cons.1 hstack
    have hzero : pc = 0 := by
      by_contra hne
      obtain htest | havoids := hsealed.guards pc _ hne haccept
      · cases htest
      · exact havoids
    rw [hend hzero] at hplace
    exact (Option.some.inj h).symm.trans hplace
  | case7 _ _ pc cursor stack _ _ _ set next hread c rest hafter _ ih =>
    obtain ⟨⟨hplace, -⟩, hrest⟩ := List.forall_mem_cons.1 hstack
    obtain htest | havoids := hsealed.guard hread nofun
    · cases htest
    · refine ih (List.forall_mem_cons.2 ⟨⟨?_, fun h => absurd h havoids⟩, hrest⟩) h
      simp only [hafter, List.length_cons] at hplace ⊢
      omega
  | case9 _ _ pc cursor stack _ _ _ place next htest hholds ih =>
    obtain ⟨⟨hplace, -⟩, hrest⟩ := List.forall_mem_cons.1 hstack
    refine ih (List.forall_mem_cons.2 ⟨⟨hplace, fun hnext => ?_⟩, hrest⟩) h
    obtain hend | havoids := hsealed.guard htest nofun
    · cases hend
      simpa [Place.holds] using hholds
    · exact absurd hnext havoids
  | case11 _ _ pc cursor stack _ _ _ first second hbranch ih =>
    obtain ⟨⟨hplace, -⟩, hrest⟩ := List.forall_mem_cons.1 hstack
    obtain htest | ⟨hfirst, hsecond⟩ := hsealed.guard hbranch nofun
    · cases htest
    · exact ih (List.forall_mem_cons.2 ⟨⟨hplace, fun h => absurd h hfirst⟩,
        List.forall_mem_cons.2 ⟨⟨hplace, fun h => absurd h hsecond⟩, hrest⟩⟩) h

end Program

/-! ## Tests for the start of the text -/

section

variable {program : Program} {start next : Nat}
  (hstart : program[start]? = some (.test .textStart next))
include hstart

/-- A search that starts with a test for the start of the text finds nothing anywhere else. -/
lemma matchEnd?_eq_none {cursor : Cursor} (hbefore : cursor.before ≠ []) :
    matchEnd? program start cursor = none := by
  have hholds : Place.holds .textStart cursor = false := by simpa [Place.holds] using hbefore
  rw [matchEnd?, explore]
  simp only [hstart, hholds, Bool.false_eq_true, if_false]
  split
  · cases h : 2 * (program.size * (cursor.position + cursor.after.length + 1)) <;> rfl
  · rfl

lemma findFrom?_eq_none {position : Nat} {before : Text} (hbefore : before ≠ []) (after : Text) :
    findFrom? program start ⟨position, before, after⟩ = none := by
  induction after generalizing position before with
  | nil => rw [findFrom?, matchEnd?_eq_none hstart hbefore]
  | cons c rest ih =>
    rw [findFrom?, matchEnd?_eq_none hstart hbefore]
    exact ih (List.cons_ne_nil c before)

/-- **A search between both ends of a text** finds all of it or nothing. -/
theorem Program.Sealed.findFrom?_eq_some (hsealed : program.Sealed) {s : Text}
    {found : Nat × Nat} (h : findFrom? program start ⟨0, [], s⟩ = some found) :
    found = (0, s.length) := by
  have hne : start ≠ 0 := by
    rintro rfl
    cases hstart.symm.trans hsealed.accepts
  rw [findFrom?.eq_def] at h
  split at h
  rename_i heq
  cases heq
  split at h
  · rename_i stop hstop
    have hwaits : ∀ entry ∈ [(start, Cursor.mk 0 [] s)], Waits s.length entry :=
      List.forall_mem_singleton.2 ⟨Nat.zero_add _, fun h => absurd h hne⟩
    rw [← Option.some.inj h, hsealed.explore_eq hwaits hstop]
  · split at h
    · cases h
    · rw [findFrom?_eq_none hstart (List.cons_ne_nil _ _)] at h
      cases h

end

/-! ## Patterns between both ends -/

namespace Tree

/-- A part before others. -/
lemma ofParts_cons (part : Tree) {rest : List Tree} (h : rest ≠ []) :
    ofParts (part :: rest) = concat part (ofParts rest) := by
  cases rest
  · exact absurd rfl h
  · rfl

/-- A sequence that ends with a test for the end of the text goes on with a sealed program. -/
lemma sealed_ofParts (parts : List Tree) :
    let made := (ofParts (parts ++ [place .textEnd])).program
    made.1 ≠ 0 ∧ made.2.Sealed := by
  induction parts with
  | nil =>
    refine ⟨Nat.one_ne_zero, rfl, fun pc i hne hi => ?_⟩
    match pc with
    | 1 => exact .inl (Option.some.inj hi).symm
    | pc + 2 => cases hi
  | cons part rest ih =>
    obtain ⟨hstart, hsealed⟩ := ih
    obtain ⟨hne, hextends⟩ := grows_add part hstart hsealed.size_pos
    rw [List.cons_append, ofParts_cons part (by simp)]
    exact ⟨hne, hsealed.of_extends hextends⟩

/-- **A pattern between tests for both ends** matches a whole text or nothing in it. -/
theorem find_ofParts (parts : List Tree) {s : Text} {found : Nat × Nat}
    (h : let made := (ofParts (place .textStart :: (parts ++ [place .textEnd]))).program
      findFrom? made.2 made.1 ⟨0, [], s⟩ = some found) : found = (0, s.length) := by
  obtain ⟨-, hsealed⟩ := sealed_ofParts (place .textStart :: parts)
  have hstart : let made := (ofParts (place .textStart :: (parts ++ [place .textEnd]))).program
      made.2[made.1]? =
        some (.test .textStart (ofParts (parts ++ [place .textEnd])).program.1) := by
    rw [ofParts_cons _ (by simp)]
    exact Array.getElem?_push_size
  exact hsealed.findFrom?_eq_some hstart h

end Tree

end DynamicSql.Pattern
