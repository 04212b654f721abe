import DynamicSql.Proofs.Delimited.Literal
import DynamicSql.Proofs.Expr.Path
import DynamicSql.Proofs.Fragment
import DynamicSql.Proofs.Node.Clause
import DynamicSql.Proofs.Node.Static

/-!
# Assignments of a `SET` clause

A `SET` clause is most often made of assignments that may each be left out, with a comma behind
every one of them. No space is put behind a comma, so the assignments that are left are separated by
commas alone, and the comma behind the last one is the one that trimming removes.

* `apply_setClause`: what trimming makes of assignments that are joined.
* `run_set`: what the clause is when some of the tests are true.
-/

namespace DynamicSql

/-! ## Assignments -/

/-- Whether a character is neither white space nor a comma. -/
def Text.isBound (c : Char) : Bool := !isBlank c && c != ','

/-- Whether a text begins and ends with characters that are neither white space nor commas. -/
def Text.isBounded (s : Text) : Bool := s.head?.any isBound && s.getLast?.any isBound

/-- An assignment that may be left out. Its text has no white space and no commas at its ends, and
no substitutions. -/
structure Assignment where
  /-- Says whether the assignment stays. -/
  test : Text
  /-- The assignment itself. -/
  content : Text
  /-- The text is not blank, and neither white space nor a comma is at its ends. -/
  isBounded : Text.isBounded content = true
  /-- The text is written as it is. -/
  isStatic : Node.isDynamicText content = false

namespace Assignment

/-- The assignment with a comma behind it. -/
def text (a : Assignment) : Text := a.content ++ [',']

/-- The assignment as a part of a template. -/
def node (a : Assignment) : Node := .guard a.test (.plain a.text)

/-- The assignments with a comma between them. -/
def list (assignments : List Assignment) : Text := [','].intercalate (assignments.map content)

/-- The clause of the assignments that stay. -/
def clause : List Assignment → Text
  | [] => []
  | first :: rest => "SET ".toList ++ list (first :: rest)

/-- A comma makes no substitution of what stands before it. -/
lemma isDynamicText_text (a : Assignment) : Node.isDynamicText a.text = false := by
  have hstatic := a.isStatic
  rw [Node.isDynamicText, Delimiters.hasToken, Bool.not_eq_false', List.isEmpty_iff] at hstatic ⊢
  apply @Delimiters.tokens_append_of_plain '$' a.content [','] (by decide) (by decide) hstatic
  intro c hc
  rw [List.mem_singleton] at hc
  subst hc
  decide

/-! ## Lists of assignments -/

lemma list_cons_cons (a b : Assignment) (rest : List Assignment) :
    list (a :: b :: rest) = a.text ++ list (b :: rest) := by
  rw [list, List.map_cons, List.map_cons, List.intercalate_cons_cons]
  rfl

/-- No space is put behind a comma. -/
lemma seam_text (a : Assignment) (s : Text) : Fragment.seam a.text s = [] := by
  rw [text, Fragment.seam, List.getLast?_concat]
  cases s.head? <;> simp [Fragment.glued]

/-- What is joined is the list, with a comma behind it. -/
lemma join_text (a : Assignment) (rest : List Assignment) :
    Fragment.join ((a :: rest).map text) = list (a :: rest) ++ [','] := by
  induction rest generalizing a with
  | nil => simp [list, text]
  | cons b rest ih =>
      rw [List.map_cons, Fragment.join_cons, ih, Fragment.append, seam_text, list_cons_cons,
        List.append_nil, List.append_assoc]

/-- A list begins and ends as its assignments. -/
lemma isBounded_list (a : Assignment) (rest : List Assignment) :
    Text.isBounded (list (a :: rest)) = true := by
  induction rest generalizing a with
  | nil => simpa [list] using a.isBounded
  | cons b rest ih =>
      have hfirst := a.isBounded
      have hlast := ih b
      rw [Text.isBounded, Bool.and_eq_true] at hfirst hlast ⊢
      have hne : a.content ≠ [] := fun hnil => by
        rw [hnil] at hfirst
        cases hfirst.1
      have hrest : list (b :: rest) ≠ [] := fun hnil => by
        rw [hnil] at hlast
        cases hlast.2
      rw [list_cons_cons, List.getLast?_append_of_ne_nil _ hrest, text, List.append_assoc,
        List.head?_append_of_ne_nil _ hne]
      exact ⟨hfirst.1, hlast.2⟩

/-- **The last comma goes** when assignments are joined and trimmed, and the clause begins with its
keyword. -/
theorem apply_setClause (assignments : List Assignment) :
    TrimRule.setClause.apply (Fragment.join (assignments.map text)) = clause assignments := by
  cases assignments with
  | nil => rfl
  | cons a rest =>
      have hbounded := isBounded_list a rest
      rw [join_text, clause]
      generalize list (a :: rest) = s at hbounded ⊢
      cases s with
      | nil => cases hbounded
      | cons c s =>
          rw [Text.isBounded, Bool.and_eq_true] at hbounded
          obtain ⟨hblank, hcomma⟩ : Text.isBlank c = false ∧ c ≠ ',' := by
            simpa [Text.isBound] using hbounded.1
          have htrim : Text.trim (c :: s ++ [',']) = c :: s ++ [','] := by
            apply Text.trim_of_endsSolid hblank
            exact Text.endsSolid_append (c :: s) (by decide)
          apply TrimRule.apply_setClause
          · rw [htrim]
            exact List.cons_ne_nil _ _
          · rw [htrim, List.getLast?_concat]
            simp [TrimRule.commaOf, hcomma]

end Assignment

namespace Node

/-- **A `SET` clause of assignments.** If every test has a truth value, the clause comes from the
assignments whose tests are true, in order: nothing if there are none, and else the keyword and
these assignments with one comma between any two of them. There is no comma at the ends of what
stands behind the keyword, and no binding is changed. -/
theorem run_set (assignments : List Assignment) {σ : Type} (append : σ → Text → σ) (s : σ)
    (env : Env) (h : ∀ a ∈ assignments, (env.bindings.evalTruth a.test).isOk = true) :
    let kept := assignments.filter fun a => env.bindings.holds a.test
    (trim .setClause (.mixed (assignments.map Assignment.node))).runIn append (s, env) =
        (.ok true, (append s (Assignment.clause kept), env)) ∧
      (kept ≠ [] → Text.isBounded (Assignment.list kept) = true) := by
  intro kept
  constructor
  · have hrun : runAll (assignments.map Assignment.node) env =
        ⟨kept.map Assignment.text, env, .ok true⟩ :=
      runAll_guards Assignment.isDynamicText_text h
    rw [runIn_eq, Run.into]
    simp only [run, runTrim, Run.collected, hrun, Assignment.apply_setClause]
    rfl
  · intro hne
    obtain ⟨a, rest, hkept⟩ := List.exists_cons_of_ne_nil hne
    rw [hkept]
    exact Assignment.isBounded_list a rest

/-- Three assignments of which the last is left out; the first has a comma inside. -/
theorem run_set_comma :
    let assignments : List Assignment := [
      ⟨"a".toList, "a = greatest(a, 1)".toList, by decide, by decide +kernel⟩,
      ⟨"b".toList, "b = #\x7bb\x7d".toList, by decide, by decide +kernel⟩,
      ⟨"c".toList, "c = ''".toList, by decide, by decide +kernel⟩]
    let parameter : Value :=
      .object [("a".toList, .boolean true), ("b".toList, .integer 2), ("c".toList, .integer 0)]
    let env : Env := ⟨Bindings.ofCall parameter none, 0⟩
    let node : Node := .trim .setClause (.mixed (assignments.map Assignment.node))
    (∀ a ∈ assignments, (env.bindings.evalTruth a.test).isOk = true) ∧
      (node.runIn Fragment.append ([], env)).2.1 =
        "SET a = greatest(a, 1),b = #\x7bb\x7d".toList := by
  intro assignments parameter env node
  have htruth : ∀ a ∈ assignments,
      env.bindings.evalTruth a.test = .ok (env.bindings.value a.test).truthy := by
    intro a ha
    have hidentifier : isIdentifier a.test = true := by
      revert a
      decide
    rw [Bindings.evalTruth, Bindings.eval_name _ hidentifier]
    rfl
  have hok : ∀ a ∈ assignments, (env.bindings.evalTruth a.test).isOk = true := by
    intro a ha
    rw [htruth a ha]
    rfl
  have hholds : ∀ a ∈ assignments,
      env.bindings.holds a.test = (env.bindings.value a.test).truthy := by
    intro a ha
    rw [Bindings.holds, htruth a ha]
  refine ⟨hok, ?_⟩
  rw [(run_set assignments Fragment.append [] env hok).1, List.filter_congr hholds]
  decide

end Node

end DynamicSql
