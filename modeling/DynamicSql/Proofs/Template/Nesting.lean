import DynamicSql.Proofs.Node.Entry
import DynamicSql.Proofs.Template.Escaping

/-!
# Escaped placeholders in loops

A loop divides what its body has written at the placeholders, to rename them, and drops the
backslashes before openings as it does so. Text in which every opening was escaped therefore leaves
the innermost of several loops as it was before, and for the loops around it, and when the SQL text
is assembled, what looks like a placeholder in there is one (`nested_escape`). The text itself comes
out if there is no loop around it, or if it has no opening of a placeholder.
-/

namespace DynamicSql

open Delimiters

/-! ## Escapes -/

namespace Text

/-- Where an escaped text begins with a character that is no backslash, the text does too. -/
lemma head?_of_escape {mark s : Text} {c : Char} (hc : c ≠ '\\')
    (h : (escape mark s).head? = some c) : s.head? = some c := by
  cases s with
  | nil => cases h
  | cons d rest =>
      rw [escape] at h
      split at h
      · exact absurd (Option.some.inj h).symm hc
      · exact h

/-- Backslashes make no opening of a substitution. -/
lemma cut?_escape_of_none {mark s : Text} (h : cut? substitution.opening s = none) :
    cut? substitution.opening (escape mark s) = none := by
  rw [cut?_eq_none_iff] at h ⊢
  induction s with
  | nil => exact h
  | cons c rest ih =>
      rw [List.infix_cons_iff, not_or] at h
      have hrest := ih h.2
      have hcons : ¬ substitution.opening <:+: c :: escape mark rest := by
        rw [List.infix_cons_iff, not_or]
        refine ⟨?_, hrest⟩
        -- a brace right behind the character is no backslash, so it was there before
        rintro ⟨u, hu⟩
        obtain ⟨rfl, htail⟩ := List.cons.inj hu
        have hhead : (escape mark rest).head? = some '{' := by
          rw [← htail]
          rfl
        obtain ⟨v, hv⟩ := List.head?_eq_some_iff.1 (head?_of_escape (by decide) hhead)
        exact h.1 ⟨v, by rw [hv]; rfl⟩
      rw [escape]
      split
      · rw [List.infix_cons_iff, not_or]
        refine ⟨?_, hcons⟩
        rintro ⟨u, hu⟩
        exact absurd (List.cons.inj hu).1 (by decide)
      · exact hcons

/-- An escaped text is static if the text is. -/
lemma isDynamicText_escape {mark s : Text} (h : cut? substitution.opening s = none) :
    Node.isDynamicText (escape mark s) = false := by
  rw [Node.isDynamicText, hasToken, ← contents_division, division_of_none (cut?_escape_of_none h)]
  rfl

end Text

/-! ## Renaming -/

namespace Loop

/-- A fragment as it leaves several nested loops, the outermost of which has the given id. -/
def renameNested : List Loop → Nat → Text → Text
  | [], _, s => s
  | l :: rest, id, s => l.renameFragment id (renameNested rest (id + 1) s)

/-- **The backslashes are gone** when an escaped text leaves a loop. -/
lemma renameFragment_escape (l : Loop) (id : Nat) (s : Text) :
    l.renameFragment id (Text.escape placeholder.opening s) = s :=
  @replaceAll_escape '#' (by decide) (by decide) _ s

/-- A text without openings leaves a loop as it is. -/
lemma renameFragment_of_none {s : Text} (h : Text.cut? placeholder.opening s = none) (l : Loop)
    (id : Nat) : l.renameFragment id s = s := by
  rw [renameFragment, replaceAll_eq, division_of_none h]
  exact Division.fill_mk_nil s _

/-- The innermost loop is the first that a fragment leaves. -/
lemma renameNested_concat (outer : List Loop) (inner : Loop) (id : Nat) (s : Text) :
    renameNested (outer ++ [inner]) id s =
      renameNested outer id (inner.renameFragment (id + outer.length) s) := by
  induction outer generalizing id with
  | nil => rfl
  | cons l rest ih =>
      rw [List.cons_append, renameNested, renameNested, ih, List.length_cons, Nat.add_assoc,
        Nat.add_comm 1]

/-- A text without openings leaves all loops as it is. -/
lemma renameNested_of_none {s : Text} (h : Text.cut? placeholder.opening s = none)
    (loops : List Loop) (id : Nat) : renameNested loops id s = s := by
  induction loops generalizing id with
  | nil => rfl
  | cons l rest ih => rw [renameNested, ih, renameFragment_of_none h]

/-- What is left of an escaped text behind several loops: the outer loops find the text itself. -/
lemma renameNested_escape (outer : List Loop) (inner : Loop) (id : Nat) (s : Text) :
    renameNested (outer ++ [inner]) id (Text.escape placeholder.opening s) =
      renameNested outer id s := by
  rw [renameNested_concat, renameFragment_escape]

/-! ## Running -/

/-- Whether a loop writes nothing of its own. -/
def isBare (l : Loop) : Bool := l.opening.isNone && l.closing.isNone && l.separator.isNone

/-- Whether each of several nested loops finds a collection of one entry. -/
def SingleEntries : List Loop → Env → Prop
  | [], _ => True
  | l :: rest, env => ∃ entry, env.bindings.evalEntries l.collection = .ok [entry] ∧
      SingleEntries rest (l.enter entry env)

/-- The run of a bare loop over one entry renames what its body writes. -/
lemma run_single {l : Loop} (hbare : l.isBare = true) {env : Env} {entry : Entry}
    (hentries : env.bindings.evalEntries l.collection = .ok [entry]) {body : Run Bool}
    {written : List Text} {env' : Env} {taken : Bool}
    (hbody : body (l.enter entry env) = ⟨written, env', .ok taken⟩) :
    ∃ env'', l.run body env =
      ⟨written.map (l.renameFragment env.counter), env'', .ok true⟩ := by
  obtain ⟨hopening, hclosing, hseparator⟩ :
      l.opening = none ∧ l.closing = none ∧ l.separator = none := by
    simpa [isBare, and_assoc] using hbare
  have hunbind (name? : Option Text) (env : Env) :
      ∃ env', Run.unbindSome name? env = ⟨[], env', .ok ()⟩ := by
    cases name? <;> exact ⟨_, rfl⟩
  have hfragments : l.entryFragments false env.counter written =
      written.map (l.renameFragment env.counter) := by
    rw [entryFragments, hseparator]
  obtain ⟨env₁, hitem⟩ := hunbind l.item env'
  obtain ⟨env₂, hindex⟩ := hunbind l.index env₁
  refine ⟨env₂, ?_⟩
  simp only [run, bind, Run.bind, Run.ofBindings, hentries, List.isEmpty_cons, Bool.false_eq_true,
    if_false, hopening, hclosing, Run.writeSome, Run.pure, runEntries, runEntry_eq, hbody,
    hfragments, Except.map, hitem, hindex, pure, List.nil_append, List.append_nil]

end Loop

namespace Node

/-- A node in several loops, the first of which is the outermost. -/
def nested (loops : List Loop) (body : Node) : Node := loops.foldr Node.loop body

/-- **Static text in loops over one entry each** is written once, renamed by every loop. -/
theorem run_nested {s : Text} (hstatic : isDynamicText s = false) (filter : Option Pattern)
    {loops : List Loop} (hbare : ∀ l ∈ loops, l.isBare = true) {env : Env}
    (hentries : Loop.SingleEntries loops env) :
    ∃ env', (nested loops (.text s filter)).run env =
      ⟨[Loop.renameNested loops env.counter s], env', .ok true⟩ := by
  -- from the outermost loop inwards, as the entry of a loop decides what the loops in it find
  induction loops generalizing env with
  | nil => exact ⟨env, by rw [nested, List.foldr_nil, run, runText_of_static hstatic]; rfl⟩
  | cons l rest ih =>
      rw [List.forall_mem_cons] at hbare
      obtain ⟨entry, hentry, hrest⟩ := hentries
      obtain ⟨env', hbody⟩ := ih hbare.2 hrest
      exact Loop.run_single hbare.1 hentry hbody

end Node

/-! ## Applying -/

namespace Template

/-- Static text in loops over one entry each is assembled as it leaves the loops. -/
lemma apply_nested {t : Template} {loops : List Loop} {s : Text}
    (hroot : t.root = .nested loops (.plain s)) (hstatic : Node.isDynamicText s = false)
    (hbare : ∀ l ∈ loops, l.isBare = true) (parameter : Value)
    (hentries : Loop.SingleEntries loops ⟨Bindings.ofCall parameter t.database, 0⟩) :
    t.apply parameter = BoundSql.assemble (Loop.renameNested loops 0 s)
      (t.root.run ⟨Bindings.ofCall parameter t.database, 0⟩).env.bindings t.style := by
  obtain ⟨env', hrun⟩ := Node.run_nested hstatic none hbare hentries
  rw [← Node.plain, ← hroot] at hrun
  rw [apply_of_run hrun, Fragment.join_singleton, hrun]

/-- **Escaped placeholders in loops are placeholders.** Let text without openings of substitutions,
with a backslash before every opening of a placeholder, stand in several loops over one entry each
that write nothing of their own. Without a loop, the text comes out. With loops, the text that the
innermost of them writes is the one without the backslashes, so that the others rename, and
assembling binds, whatever complete tokens are in it. The text still comes out if there is no
opening in it. -/
theorem nested_escape {t : Template} {loops : List Loop} {s : Text}
    (hroot : t.root = .nested loops (.plain (Text.escape placeholder.opening s)))
    (hplain : Text.cut? substitution.opening s = none)
    (hbare : ∀ l ∈ loops, l.isBare = true) (parameter : Value)
    (hentries : Loop.SingleEntries loops ⟨Bindings.ofCall parameter t.database, 0⟩) :
    let b := (t.root.run ⟨Bindings.ofCall parameter t.database, 0⟩).env.bindings
    (loops = [] → t.apply parameter =
      .ok { sql := s, placeholders := [], parameters := [], additional := b }) ∧
    (∀ outer inner, loops = outer ++ [inner] →
      t.apply parameter = BoundSql.assemble (Loop.renameNested outer 0 s) b t.style) ∧
    (Text.cut? placeholder.opening s = none → t.apply parameter =
      .ok { sql := s, placeholders := [], parameters := [], additional := b }) := by
  intro b
  have happly : t.apply parameter = BoundSql.assemble
      (Loop.renameNested loops 0 (Text.escape placeholder.opening s)) b t.style :=
    apply_nested hroot (Text.isDynamicText_escape hplain) hbare parameter hentries
  refine ⟨?_, ?_, ?_⟩
  · rintro rfl
    have hdivision : placeholder.division (Text.escape placeholder.opening s) = .literal s :=
      (@division_escape '#' (by decide) (by decide) s).1
    exact happly.trans (BoundSql.assemble_of_literal hdivision _ _)
  · rintro outer inner rfl
    rw [happly, Loop.renameNested_escape]
  · intro hnone
    rw [happly, Text.escape_of_none hnone, Loop.renameNested_of_none hnone,
      BoundSql.assemble_of_literal (division_of_none hnone)]

/-- The inner one of two loops drops the backslash, and the outer one renames its alias. -/
theorem nested_escape_twice :
    let outer : Loop := { collection := "rows".toList, item := some "row".toList }
    let inner : Loop := { collection := "row".toList, item := some "id".toList }
    let s : Text := "id = #\x7brow\x7d".toList
    let t : Template :=
      { root := .nested [outer, inner] (.plain "id = \\#\x7brow\x7d".toList) }
    let parameter : Value := .object [("rows".toList, .array [.array [.integer 7]])]
    t.root = .nested [outer, inner] (.plain (Text.escape placeholder.opening s)) ∧
      Loop.SingleEntries [outer, inner] ⟨Bindings.ofCall parameter t.database, 0⟩ ∧
      t.apply parameter = BoundSql.assemble "id = #\x7b__gen_row_0\x7d".toList
        (t.root.run ⟨Bindings.ofCall parameter t.database, 0⟩).env.bindings .question := by
  intro outer inner s t parameter
  have hescape : Text.escape placeholder.opening s = "id = \\#\x7brow\x7d".toList := by
    decide +kernel
  have hroot : t.root = .nested [outer, inner] (.plain (Text.escape placeholder.opening s)) := by
    rw [hescape]
  have hsingle : Loop.SingleEntries [outer, inner] ⟨Bindings.ofCall parameter t.database, 0⟩ := by
    have hrows := @Bindings.evalEntries_ofCall "rows".toList
      [("rows".toList, .array [.array [.integer 7]])] _ (by decide) (by decide) (by decide) rfl
      t.database
    refine ⟨_, hrows, ⟨Eval.count 0, .integer 7⟩, ?_, trivial⟩
    have hrow : Expr.parse inner.collection = .ok (.ref "row".toList) := Path.parse_name (by decide)
    rw [Bindings.evalEntries, Bindings.eval, hrow]
    rfl
  have hrename : Loop.renameNested [outer] 0 s = "id = #\x7b__gen_row_0\x7d".toList := by
    decide +kernel
  obtain ⟨-, happly, -⟩ := nested_escape hroot (by decide +kernel) (by decide) parameter hsingle
  exact ⟨hroot, hsingle, hrename ▸ happly [outer] inner rfl⟩

/-- Escaped text does not stay as it is in a loop: its placeholder is bound to a parameter. -/
theorem placeholder_of_nested_escape :
    ¬ ∀ (loops : List Loop) (s : Text) (style : MarkerStyle) (database : Option Text)
        (parameter : Value), Text.allBlank s = false → Text.cut? substitution.opening s = none →
      (∀ l ∈ loops, l.isBare = true) →
      Loop.SingleEntries loops ⟨Bindings.ofCall parameter database, 0⟩ →
      ∃ r, apply ⟨.nested loops (.plain (Text.escape placeholder.opening s)), style, database⟩
          parameter = .ok r ∧ r.sql = s ∧ r.placeholders = [] := by
  intro h
  let l : Loop := { collection := "ids".toList, item := some "x".toList }
  let s : Text := "#\x7ba\x7d".toList
  let fields : List (Text × Value) :=
    [("a".toList, .string "v".toList), ("ids".toList, .array [.integer 1])]
  have hids := @Bindings.evalEntries_ofCall "ids".toList fields _ (by decide) (by decide)
    (by decide) rfl none
  have hsingle : Loop.SingleEntries [l] ⟨Bindings.ofCall (.object fields) none, 0⟩ :=
    ⟨_, hids, trivial⟩
  have hplain : Text.cut? substitution.opening s = none := by decide
  have hbare : ∀ l' ∈ [l], l'.isBare = true := by decide
  obtain ⟨r, happly, -, hnone⟩ :=
    h [l] s .question none (.object fields) (by decide) hplain hbare hsingle
  rw [apply_nested rfl (Text.isDynamicText_escape hplain) hbare _ hsingle,
    ← List.nil_append [l], Loop.renameNested_escape] at happly
  obtain ⟨hparse, -⟩ := BoundSql.of_assemble_eq_ok _ _ happly
  have htokens : placeholder.tokens (Loop.renameNested [] 0 s) = ["a".toList] := by decide +kernel
  rw [htokens, hnone] at hparse
  cases hparse

end Template

end DynamicSql
