import DynamicSql.Text.Basic

/-!
# Sets of characters

A set of characters is kept as the ascending list of the code points at which membership changes:
a code point is in the set if an odd number of them lie at or before it. In this form every set is
written in one way, so equal sets are equal data, and one walk through the changes of two sets
gives their union, their intersection and their differences.

Main statements: a combination of two sets has what the connective says of both
(`contains_combine`), a set of ranges has what lies in one of them (`contains_ofRanges`), and the
complement of a set has the characters that the set has not (`contains_complement`).
-/

namespace DynamicSql.Pattern

/-- A set of characters. -/
structure CharSet where
  /-- The code points at which membership changes. -/
  changes : List Nat
  /-- They ascend. -/
  ascending : changes.Pairwise (· < ·)
  deriving DecidableEq

namespace CharSet

/-! ## Membership -/

/-- Whether a code point is in a set, where `inside` says so of those before the first change. -/
def member (inside : Bool) (code : Nat) : List Nat → Bool
  | [] => inside
  | change :: rest => if code < change then inside else member (!inside) code rest

/-- Whether a set has a code point. -/
def contains (s : CharSet) (code : Nat) : Bool := member false code s.changes

theorem member_of_lt {changes : List Nat} {inside : Bool} {code : Nat}
    (h : ∀ change ∈ changes, code < change) : member inside code changes = inside := by
  cases changes with
  | nil => rfl
  | cons change rest => simp [member, h change List.mem_cons_self]

/-! ## Combining two sets -/

/-- The changes with one in front, unless membership is the same before and after it. -/
def changeAt (code : Nat) (before after : Bool) (rest : List Nat) : List Nat :=
  if before = after then rest else code :: rest

/-- The changes of a connective of two sets, where `p` and `q` say whether what lies before the
first change is in one and the other. -/
def combined (op : Bool → Bool → Bool) (p q : Bool) : List Nat → List Nat → List Nat
  | [], bs => if op p q = op p (!q) then [] else bs
  | a :: as, [] => if op p q = op (!p) q then [] else a :: as
  | a :: as, b :: bs =>
    if a < b then changeAt a (op p q) (op (!p) q) (combined op (!p) q as (b :: bs))
    else if b < a then changeAt b (op p q) (op p (!q)) (combined op p (!q) (a :: as) bs)
    else changeAt a (op p q) (op (!p) (!q)) (combined op (!p) (!q) as bs)
termination_by as bs => as.length + bs.length

theorem mem_changeAt {x code : Nat} {before after : Bool} {rest : List Nat}
    (h : x ∈ changeAt code before after rest) : x = code ∨ x ∈ rest := by
  unfold changeAt at h
  split at h
  · exact .inr h
  · exact List.mem_cons.1 h

theorem mem_combined {op : Bool → Bool → Bool} {p q : Bool} {as bs : List Nat} {x : Nat}
    (h : x ∈ combined op p q as bs) : x ∈ as ∨ x ∈ bs := by
  fun_induction combined op p q as bs with
  | case1 => simp at h
  | case2 => exact .inr h
  | case3 => simp at h
  | case4 => exact .inl h
  | case5 p q a as b bs hab ih => grind [mem_changeAt h]
  | case6 p q a as b bs hab hba ih => grind [mem_changeAt h]
  | case7 p q a as b bs hab hba ih => grind [mem_changeAt h]

theorem pairwise_changeAt {code : Nat} {before after : Bool} {rest : List Nat}
    (hr : rest.Pairwise (· < ·)) (h : ∀ x ∈ rest, code < x) :
    (changeAt code before after rest).Pairwise (· < ·) := by
  unfold changeAt
  split
  · exact hr
  · exact List.pairwise_cons.2 ⟨h, hr⟩

theorem pairwise_combined {op : Bool → Bool → Bool} {p q : Bool} {as bs : List Nat}
    (ha : as.Pairwise (· < ·)) (hb : bs.Pairwise (· < ·)) :
    (combined op p q as bs).Pairwise (· < ·) := by
  fun_induction combined op p q as bs with
  | case1 => exact .nil
  | case2 => exact hb
  | case3 => exact .nil
  | case4 => exact ha
  | case5 p q a as b bs hab ih =>
    obtain ⟨haas, has⟩ := List.pairwise_cons.1 ha
    obtain ⟨hbbs, -⟩ := List.pairwise_cons.1 hb
    exact pairwise_changeAt (ih has hb) fun x hx => by grind [mem_combined hx]
  | case6 p q a as b bs hab hba ih =>
    obtain ⟨haas, -⟩ := List.pairwise_cons.1 ha
    obtain ⟨hbbs, hbs⟩ := List.pairwise_cons.1 hb
    exact pairwise_changeAt (ih ha hbs) fun x hx => by grind [mem_combined hx]
  | case7 p q a as b bs hab hba ih =>
    obtain ⟨haas, has⟩ := List.pairwise_cons.1 ha
    obtain ⟨hbbs, hbs⟩ := List.pairwise_cons.1 hb
    exact pairwise_changeAt (ih has hbs) fun x hx => by grind [mem_combined hx]

theorem member_changeAt {code x : Nat} {before after : Bool} {rest : List Nat}
    (h : ∀ y ∈ rest, x < y) :
    member before code (changeAt x before after rest) =
      if code < x then before else member after code rest := by
  unfold changeAt
  by_cases hba : before = after
  · subst hba
    by_cases hx : code < x
    · simp [hx, member_of_lt fun y hy => Nat.lt_trans hx (h y hy)]
    · simp [hx]
  · have : after = !before := by cases before <;> cases after <;> simp_all
    simp [member, this]

/-- What lies at or behind the first change, by the rest of them. -/
theorem member_cons_of_le {code a : Nat} {p : Bool} {as : List Nat} (h : ¬ code < a) :
    member p code (a :: as) = member (!p) code as := by simp [member, h]

theorem eq_of_eq_not {f : Bool → Bool} {q : Bool} (h : f q = f (!q)) (r : Bool) : f r = f q := by
  cases q <;> cases r <;> simp_all

/-- A connective that tells membership in a set from its contrary keeps all changes. -/
theorem member_of_ne_not {f : Bool → Bool} {q : Bool} {code : Nat} (h : ¬ f q = f (!q))
    (changes : List Nat) : member (f q) code changes = f (member q code changes) := by
  have hnot : ∀ r, f (!r) = !f r := fun r => by
    cases q <;> cases r <;> cases ht : f true <;> cases hf : f false <;> simp_all
  clear h
  induction changes generalizing q with
  | nil => rfl
  | cons change rest ih => simp only [member, ← hnot, ih]; split <;> rfl

theorem member_combined {op : Bool → Bool → Bool} {p q : Bool} {as bs : List Nat} {code : Nat}
    (ha : as.Pairwise (· < ·)) (hb : bs.Pairwise (· < ·)) :
    member (op p q) code (combined op p q as bs) = op (member p code as) (member q code bs) := by
  fun_induction combined op p q as bs with
  | case1 p q bs h => exact (eq_of_eq_not (f := op p) h _).symm
  | case2 p q bs h => exact member_of_ne_not (f := op p) h bs
  | case3 p q a as h => exact (eq_of_eq_not (f := (op · q)) h _).symm
  | case4 p q a as h => exact member_of_ne_not (f := (op · q)) h (a :: as)
  | case5 p q a as b bs hab ih =>
    obtain ⟨haas, has⟩ := List.pairwise_cons.1 ha
    obtain ⟨hbbs, -⟩ := List.pairwise_cons.1 hb
    rw [member_changeAt fun x hx => by grind [mem_combined hx], ih has hb]
    by_cases h : code < a
    · simp [h, member, Nat.lt_trans h hab]
    · rw [if_neg h, member_cons_of_le h]
  | case6 p q a as b bs hab hba ih =>
    obtain ⟨haas, -⟩ := List.pairwise_cons.1 ha
    obtain ⟨hbbs, hbs⟩ := List.pairwise_cons.1 hb
    rw [member_changeAt fun x hx => by grind [mem_combined hx], ih ha hbs]
    by_cases h : code < b
    · simp [h, member, Nat.lt_trans h hba]
    · rw [if_neg h, member_cons_of_le h]
  | case7 p q a as b bs hab hba ih =>
    obtain rfl : a = b := Nat.le_antisymm (Nat.not_lt.1 hba) (Nat.not_lt.1 hab)
    obtain ⟨haas, has⟩ := List.pairwise_cons.1 ha
    obtain ⟨hbbs, hbs⟩ := List.pairwise_cons.1 hb
    rw [member_changeAt fun x hx => by grind [mem_combined hx], ih has hbs]
    by_cases h : code < a
    · simp [h, member]
    · rw [if_neg h, member_cons_of_le h, member_cons_of_le h]

/-- The code points for which a connective of membership in two sets holds. The connective has to
be false of what is in neither. -/
def combine (op : Bool → Bool → Bool) (a b : CharSet) : CharSet :=
  ⟨combined op false false a.changes b.changes, pairwise_combined a.ascending b.ascending⟩

/-- **A combination has what the connective says of both sets.** -/
theorem contains_combine {op : Bool → Bool → Bool} (h : op false false = false) (a b : CharSet)
    (code : Nat) : (combine op a b).contains code = op (a.contains code) (b.contains code) := by
  have hm : member (op false false) code (combine op a b).changes =
      op (a.contains code) (b.contains code) := member_combined a.ascending b.ascending
  rwa [h] at hm

/-- What is in one set or the other. -/
def union (a b : CharSet) : CharSet := combine (· || ·) a b

/-- What is in both sets. -/
def inter (a b : CharSet) : CharSet := combine (· && ·) a b

/-- What is in the first set and not in the second. -/
def diff (a b : CharSet) : CharSet := combine (fun x y => x && !y) a b

/-- What is in exactly one of two sets. -/
def symmDiff (a b : CharSet) : CharSet := combine (· != ·) a b

theorem contains_union (a b : CharSet) (code : Nat) :
    (a.union b).contains code = (a.contains code || b.contains code) :=
  contains_combine rfl a b code

theorem contains_diff (a b : CharSet) (code : Nat) :
    (a.diff b).contains code = (a.contains code && !b.contains code) :=
  contains_combine rfl a b code

/-! ## Ranges -/

/-- The set without members. -/
def none : CharSet := ⟨[], .nil⟩

/-- The code points of a closed range. -/
def range (first last : Nat) : CharSet :=
  if h : first ≤ last then ⟨[first, last + 1], List.pairwise_pair.2 (Nat.lt_succ_of_le h)⟩ else none

theorem contains_range (first last code : Nat) :
    (range first last).contains code = decide (first ≤ code ∧ code ≤ last) := by
  unfold range
  split
  · simp only [contains, member]; grind
  · simp only [none, contains, member]; grind

/-- The code points of some closed ranges. -/
def ofRanges (ranges : List (Nat × Nat)) : CharSet :=
  ranges.foldr (fun (first, last) s => (range first last).union s) none

theorem contains_ofRanges (ranges : List (Nat × Nat)) (code : Nat) :
    (ofRanges ranges).contains code =
      ranges.any fun (first, last) => decide (first ≤ code ∧ code ≤ last) := by
  induction ranges with
  | nil => rfl
  | cons head rest ih =>
    obtain ⟨first, last⟩ := head
    have hcons : ofRanges ((first, last) :: rest) = (range first last).union (ofRanges rest) := rfl
    rw [hcons, contains_union, contains_range, ih, List.any_cons]

/-- The set of one character. -/
def single (c : Char) : CharSet := range c.toNat c.toNat

/-- The ranges between changes, where there is no code point above `last`. -/
def rangesTo (last : Nat) : List Nat → List (Nat × Nat)
  | [] => []
  | [first] => [(first, last)]
  | first :: stop :: rest => (first, stop - 1) :: rangesTo last rest

/-- The last code point. -/
def lastCode : Nat := 0x10FFFF

/-- The ranges of a set, in ascending order and apart. -/
def toRanges (s : CharSet) : List (Nat × Nat) := rangesTo lastCode s.changes

/-- All characters: surrogates are none. -/
def any : CharSet := ofRanges [(0, 0xD7FF), (0xE000, lastCode)]

theorem contains_any (c : Char) : any.contains c.toNat = true := by
  have hvalid : c.toNat < 0xD800 ∨ 0xDFFF < c.toNat ∧ c.toNat < 0x110000 := c.valid
  simp only [any, contains_ofRanges, lastCode, List.any_cons, List.any_nil, Bool.or_false,
    Bool.or_eq_true, decide_eq_true_eq]
  omega

/-- The characters that are not in a set. -/
def complement (s : CharSet) : CharSet := any.diff s

/-- **The complement of a set has the characters that the set has not.** -/
theorem contains_complement (s : CharSet) (c : Char) :
    s.complement.contains c.toNat = !s.contains c.toNat := by
  rw [complement, contains_diff, contains_any, Bool.true_and]

/-- The set, or its complement. -/
def negatedIf (negated : Bool) (s : CharSet) : CharSet := if negated then s.complement else s

/-- The character of a set that has only one. -/
def toSingle? (s : CharSet) : Option Char :=
  match s.toRanges with
  | [(first, last)] => if first = last then some (Char.ofNat first) else .none
  | _ => .none

/-- Whether a set has no members. -/
def isEmpty (s : CharSet) : Bool := s.changes.isEmpty

/-- The characters of ASCII. -/
def ascii : CharSet := range 0 0x7F

/-- Whether a set has characters of ASCII only. -/
def isAscii (s : CharSet) : Bool := s.changes.all (· ≤ 0x80)

end CharSet

end DynamicSql.Pattern
