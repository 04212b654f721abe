import DynamicSql.Proofs.Delimited.Concatenation
import DynamicSql.Proofs.Expr.Path
import DynamicSql.Proofs.Fragment
import DynamicSql.Proofs.Node.Static
import DynamicSql.Proofs.Node.Trim

/-!
# Conditions of a `WHERE` clause

A `WHERE` clause is most often made of conditions that may each be left out, with a connective
before every one of them. Whichever are left, the first connective goes, and all else stays as it is
written. One override is removed and no more, so conditions that begin with a connective themselves
lose nothing of it.

* `apply_whereClause`: what trimming makes of conditions that are joined.
* `run_where`: what the clause is when some of the tests are true.
-/

namespace DynamicSql

/-! ## Conditions -/

/-- What conditions are joined by, in upper case. -/
def connectives : List Text := ["AND".toList, "OR".toList]

/-- A condition that may be left out. Its text stands behind a connective; it may begin with white
space or with a connective itself, but does not end in white space, and has no substitutions. -/
structure Condition where
  /-- Says whether the condition stays. -/
  test : Text
  /-- What joins the condition to those before it. -/
  connective : Text
  /-- The condition itself. -/
  content : Text
  /-- The connective is one of two, in any letter case. -/
  isConnective : Text.upperAscii connective ∈ connectives
  /-- The text is not blank and does not end in white space. -/
  endsSolid : Text.endsSolid content = true
  /-- The text is written as it is. -/
  isStatic : Node.isDynamicText content = false

namespace Condition

/-- The condition behind its connective. -/
def text (c : Condition) : Text := c.connective ++ ' ' :: c.content

/-- The condition as a part of a template. -/
def node (c : Condition) : Node := .guard c.test (.plain c.text)

/-- Whether the condition stays. -/
def holds (b : Bindings) (c : Condition) : Bool :=
  match b.evalTruth c.test with
  | .ok truth => truth
  | .error _ => false

/-- The clause of the conditions that stay. -/
def clause : List Condition → Text
  | [] => []
  | first :: rest => "WHERE ".toList ++ Fragment.join (first.content :: rest.map text)

variable (c : Condition)

/-- A connective begins with a letter. -/
lemma exists_connective_eq_cons :
    ∃ letter rest, c.connective = letter :: rest ∧ Text.isBlank letter = false := by
  have hletters : ∀ upper ∈ connectives, upper.head?.any (!Text.isBlank ·) = true := by decide
  have hletter := hletters _ c.isConnective
  rcases hconnective : c.connective with _ | ⟨first, rest⟩
  · rw [hconnective] at hletter
    cases hletter
  · have hblank : (!Text.isBlank first.toUpper) = true := by rwa [hconnective] at hletter
    rw [(Text.toUpper_alike first).1, Bool.not_eq_true'] at hblank
    exact ⟨first, rest, rfl, hblank⟩

/-- A connective opens no substitution. -/
lemma cut?_connective :
    Text.cut? Delimiters.substitution.opening (c.connective ++ [' ']) = none := by
  have hupper : ∀ upper ∈ connectives, '$' ∉ upper := by decide
  have hdollar : '$' ∉ c.connective := fun hmem =>
    hupper _ c.isConnective (List.mem_map_of_mem hmem)
  rw [Text.cut?_eq_none_iff]
  intro hinfix
  have hmem : '$' ∈ c.connective ++ [' '] := hinfix.subset List.mem_cons_self
  rw [List.mem_append, List.mem_singleton] at hmem
  exact hmem.elim hdollar (by decide)

/-- A connective makes no substitution of what stands behind it. -/
lemma isDynamicText_text : Node.isDynamicText c.text = false := by
  have happart : Delimiters.Apart '$' (c.connective ++ [' ']) c.content := by
    intro x hx y _
    obtain rfl : ' ' = x := by simpa using hx
    exact ⟨fun h => absurd h.1 (by decide), fun h => absurd h.1 (by decide)⟩
  have htokens : Delimiters.substitution.tokens (c.connective ++ [' '] ++ c.content) =
      Delimiters.substitution.tokens c.content :=
    Delimiters.tokens_append_of_none c.cut?_connective happart
  have hstatic := c.isStatic
  rw [Node.isDynamicText, Delimiters.hasToken] at hstatic ⊢
  rw [text, List.append_cons, htokens, hstatic]

/-- The text of a condition ends as the condition. -/
lemma endsSolid_text : Text.endsSolid c.text = true :=
  Text.endsSolid_append _ (Text.endsSolid_append [' '] c.endsSolid)

/-- A connective that leads a text is removed, with the space behind it. -/
lemma dropLead_connective (t : Text) :
    TrimRule.dropLead TrimRule.whereClause.leadOverrides
      (Text.upperAscii (c.connective ++ [' '] ++ t)) (c.connective ++ [' '] ++ t) = t := by
  have hfind : ∀ upper ∈ connectives, ∀ u : Text,
      TrimRule.whereClause.leadOverrides.find? (·.isPrefixOf (upper ++ [' '] ++ u)) =
        some (upper ++ [' ']) := by
    intro upper hmem u
    rcases List.mem_pair.1 hmem with rfl | rfl <;> rfl
  have hupper : Text.upperAscii (c.connective ++ [' '] ++ t) =
      Text.upperAscii c.connective ++ [' '] ++ Text.upperAscii t := by
    rw [Text.upperAscii_append, Text.upperAscii_append]
    rfl
  have hlength : (Text.upperAscii c.connective ++ [' ']).length =
      (c.connective ++ [' ']).length := by
    rw [List.length_append, List.length_append, Text.length_upperAscii]
  rw [TrimRule.dropLead, hupper, hfind _ c.isConnective]
  change List.drop _ _ = t
  rw [hlength, List.drop_left]

/-- The connective stands before all that is joined as it stands before the first condition. -/
lemma join_text (rest : List Condition) :
    Fragment.join ((c :: rest).map text) =
      c.connective ++ [' '] ++ Fragment.join (c.content :: rest.map text) := by
  rw [List.map_cons, Fragment.join_cons, Fragment.join_cons, text, List.append_cons,
    Fragment.append_of_append _ _ (Text.ne_nil_of_endsSolid c.endsSolid)]

/-- Conditions that are joined do not end in white space. -/
lemma endsSolid_join_text (rest : List Condition) :
    Text.endsSolid (Fragment.join ((c :: rest).map text)) = true := by
  refine Fragment.endsSolid_join (List.cons_ne_nil _ _) fun f hf => ?_
  obtain ⟨d, -, rfl⟩ := List.mem_map.1 hf
  exact d.endsSolid_text

/-- **Only the first connective goes** when conditions are joined and trimmed, and the clause begins
with its keyword. -/
theorem apply_whereClause (conditions : List Condition) :
    TrimRule.whereClause.apply (Fragment.join (conditions.map text)) = clause conditions := by
  cases conditions with
  | nil => rfl
  | cons first rest =>
      have hsolid := first.endsSolid_join_text rest
      change _ = "WHERE ".toList ++ Fragment.join (first.content :: rest.map text)
      rw [join_text] at hsolid ⊢
      generalize Fragment.join (first.content :: rest.map text) = t at hsolid ⊢
      have htrim : Text.trim (first.connective ++ [' '] ++ t) = first.connective ++ [' '] ++ t := by
        obtain ⟨letter, others, hletter, hblank⟩ := first.exists_connective_eq_cons
        rw [hletter] at hsolid ⊢
        exact Text.trim_of_endsSolid hblank hsolid
      have hempty := List.isEmpty_eq_false_iff.2 (Text.ne_nil_of_endsSolid hsolid)
      unfold TrimRule.apply
      simp only [htrim, hempty, Bool.false_eq_true, if_false, first.dropLead_connective]
      rfl

/-! ## Runs -/

/-- Conditions write the texts of those that stay, in order. -/
lemma runAll_nodes {conditions : List Condition} {env : Env}
    (h : ∀ c ∈ conditions, (env.bindings.evalTruth c.test).isOk = true) :
    Node.runAll (conditions.map node) env =
      ⟨(conditions.filter (holds env.bindings)).map text, env, .ok true⟩ :=
  Node.runAll_guards isDynamicText_text h

end Condition

namespace Node

/-- **A `WHERE` clause of conditions.** If every test has a truth value, the clause comes from the
conditions whose tests are true, in order: nothing if there are none, and else the keyword, the
first of them without its connective, and the others with theirs. No binding is changed. -/
theorem run_where (conditions : List Condition) {σ : Type} (append : σ → Text → σ) (s : σ)
    (env : Env) (h : ∀ c ∈ conditions, (env.bindings.evalTruth c.test).isOk = true) :
    (trim .whereClause (.mixed (conditions.map Condition.node))).runIn append (s, env) =
      (.ok true,
        (append s (Condition.clause (conditions.filter (Condition.holds env.bindings))), env)) := by
  rw [runIn_eq, Run.into]
  simp only [run, runTrim, Run.collected, Condition.runAll_nodes h, Condition.apply_whereClause]
  rfl

/-- Three conditions of which the second is left out; the others begin with a connective. -/
theorem run_where_connectives :
    let conditions : List Condition := [
      ⟨"a".toList, "and".toList, "OR a = 1".toList, by decide, by decide, by decide +kernel⟩,
      ⟨"b".toList, "AND".toList, "b = 2".toList, by decide, by decide, by decide +kernel⟩,
      ⟨"c".toList, "Or".toList, "AND = 3".toList, by decide, by decide, by decide +kernel⟩]
    let parameter : Value :=
      .object [("a".toList, .boolean true), ("b".toList, .boolean false), ("c".toList, .integer 1)]
    let env : Env := ⟨Bindings.ofCall parameter none, 0⟩
    let node : Node := .trim .whereClause (.mixed (conditions.map Condition.node))
    (∀ c ∈ conditions, (env.bindings.evalTruth c.test).isOk = true) ∧
      (node.runIn Fragment.append ([], env)).2.1 = "WHERE OR a = 1 Or AND = 3".toList := by
  intro conditions parameter env node
  have htruth : ∀ c ∈ conditions,
      env.bindings.evalTruth c.test = .ok (env.bindings.value c.test).truthy := by
    intro c hc
    have hidentifier : isIdentifier c.test = true := by
      revert c
      decide
    rw [Bindings.evalTruth, Bindings.eval, Path.parse_name hidentifier]
    rfl
  have hok : ∀ c ∈ conditions, (env.bindings.evalTruth c.test).isOk = true := by
    intro c hc
    rw [htruth c hc]
    rfl
  have hholds : ∀ c ∈ conditions, c.holds env.bindings = (env.bindings.value c.test).truthy := by
    intro c hc
    rw [Condition.holds, htruth c hc]
  refine ⟨hok, ?_⟩
  rw [run_where conditions Fragment.append [] env hok, List.filter_congr hholds]
  decide +kernel

end Node

end DynamicSql
