import DynamicSql.Proofs.Expr.Path
import DynamicSql.Proofs.Node.Confined
import DynamicSql.Template

/-!
# Checked templates

Building a template turns directives into nodes, and parses every expression that the tree of the
nodes lists, in the order of the tree.

* `buildNode_choose_eq_ok_iff`, `buildNode_loop_eq_ok_iff`, `buildNode_bind_eq_ok_iff`: what is
  required of the directives that may be refused.
* `firstUnparsable?_eq_some_iff`: the check finds the first expression that cannot be parsed.
* `build_checked`: a template that has been built evaluates only expressions that were parsed, so
  that no run of its tree fails on the text of one; and a template that is sound in structure is
  refused exactly if an expression cannot be parsed, with the first such expression.
-/

namespace DynamicSql.Template

/-! ## The check -/

/-- Nothing is found where every expression can be parsed. -/
lemma firstUnparsable?_eq_none_iff {expressions : List Text} :
    firstUnparsable? expressions = none ↔ ∀ e ∈ expressions, ∃ x, Expr.parse e = .ok x := by
  rw [firstUnparsable?, List.findSome?_eq_none_iff]
  refine forall₂_congr fun e _ => ?_
  rcases Expr.parse e with cause | x <;> simp

/-- **The first expression that cannot be parsed is found**, with the reason. -/
theorem firstUnparsable?_eq_some_iff {expressions : List Text} {err : BuildError} :
    firstUnparsable? expressions = some err ↔ ∃ before e after cause,
      expressions = before ++ e :: after ∧ (∀ e' ∈ before, ∃ x, Expr.parse e' = .ok x) ∧
        Expr.parse e = .error cause ∧ err = .unparsable e cause := by
  rw [firstUnparsable?, List.findSome?_eq_some_iff]
  constructor
  · rintro ⟨before, e, after, hsplit, he, hbefore⟩
    rcases hparse : Expr.parse e with cause | x
    · rw [hparse] at he
      refine ⟨before, e, after, cause, hsplit, ?_, hparse, (Option.some.inj he).symm⟩
      exact firstUnparsable?_eq_none_iff.1 (List.findSome?_eq_none_iff.2 hbefore)
    · rw [hparse] at he
      cases he
  · rintro ⟨before, e, after, cause, hsplit, hbefore, hparse, rfl⟩
    refine ⟨before, e, after, hsplit, by rw [hparse], ?_⟩
    exact List.findSome?_eq_none_iff.1 (firstUnparsable?_eq_none_iff.2 hbefore)

/-! ## Nodes of directives -/

section nodes

variable {scope : Scope} {node : Node}

/-- A choice is built if it has branches, each of which is built. -/
lemma buildNode_choose_eq_ok_iff {branches : List (Text × List Directive)}
    {otherwise : Option (List Directive)} :
    buildNode scope (.choose branches otherwise) = .ok node ↔ branches ≠ [] ∧
      ∃ inner last, buildBranches scope branches = .ok inner ∧
        buildOption scope otherwise = .ok last ∧ .choose inner last = node := by
  rw [buildNode]
  cases branches with
  | nil => simp
  | cons branch rest =>
      rw [List.isEmpty_cons, if_neg Bool.false_ne_true]
      simp only [bind_eq_ok_iff, map_eq_ok_iff, ne_eq, reduceCtorEq, not_false_eq_true, true_and,
        exists_and_left]

/-- A loop is built if it has a collection and its aliases are names. -/
lemma buildNode_loop_eq_ok_iff {l : Loop} {body : List Directive} :
    buildNode scope (.loop l body) = .ok node ↔ Text.allBlank l.collection = false ∧
      checkAlias .item l.item = .ok () ∧ checkAlias .index l.index = .ok () ∧
      ∃ inner, buildBody scope body = .ok inner ∧ .loop l inner = node := by
  rw [buildNode]
  split
  · next hblank => simp [hblank]
  · next hblank =>
    rw [Bool.not_eq_true] at hblank
    simp only [bind_eq_ok_iff, map_eq_ok_iff, hblank, true_and]
    constructor
    · rintro ⟨inner, hbody, ⟨⟩, hitem, ⟨⟩, hindex, rfl⟩
      exact ⟨hitem, hindex, inner, hbody, rfl⟩
    · rintro ⟨hitem, hindex, inner, hbody, rfl⟩
      exact ⟨inner, hbody, (), hitem, (), hindex, rfl⟩

/-- A binding is built, for the trimmed name, if that is not empty. -/
lemma buildNode_bind_eq_ok_iff {name value : Text} :
    buildNode scope (.bind name value) = .ok node ↔
      Text.trim name ≠ [] ∧ .bind (Text.trim name) value = node := by
  rw [buildNode]
  cases Text.trim name <;> simp

/-- Nodes are built of directives one by one. -/
lemma buildNodes_cons_eq_ok_iff {directive : Directive} {rest : List Directive}
    {nodes : List Node} :
    buildNodes scope (directive :: rest) = .ok nodes ↔ ∃ node others,
      buildNode scope directive = .ok node ∧ buildNodes scope rest = .ok others ∧
        node :: others = nodes := by
  simp only [buildNodes, bind_eq_ok_iff, map_eq_ok_iff, exists_and_left]

/-- Branches are built one by one. -/
lemma buildBranches_cons_eq_ok_iff {test : Text} {body : List Directive}
    {rest : List (Text × List Directive)} {nodes : List (Text × Node)} :
    buildBranches scope ((test, body) :: rest) = .ok nodes ↔ ∃ node others,
      buildBody scope body = .ok node ∧ buildBranches scope rest = .ok others ∧
        (test, node) :: others = nodes := by
  simp only [buildBranches, bind_eq_ok_iff, map_eq_ok_iff, exists_and_left]

end nodes

variable {directives : List Directive} {c : Configuration}

/-! ## Building -/

/-- What is built if the filter is a pattern and the structure is sound: the tree, unless the check
finds something. -/
lemma build_of_nodes {scope : Scope} {nodes : List Node}
    (hscope : Scope.ofConfiguration c = .ok scope)
    (hnodes : buildNodes scope directives = .ok nodes) :
    build directives c =
      match firstUnparsable? (Node.mixed nodes).expressions with
      | some e => .error e
      | none => .ok { root := .mixed nodes, style := c.style, database := c.database } := by
  rw [build, hscope, Except.bind, hnodes]
  rfl

/-- A template that has been built is sound in structure, and the check has found nothing. -/
lemma of_build_eq_ok {t : Template} (h : build directives c = .ok t) :
    ∃ scope nodes, Scope.ofConfiguration c = .ok scope ∧ buildNodes scope directives = .ok nodes ∧
      t.root = .mixed nodes ∧ firstUnparsable? t.root.expressions = none := by
  rcases hscope : Scope.ofConfiguration c with e | scope
  · rw [build, hscope] at h
    cases h
  · rcases hnodes : buildNodes scope directives with e | nodes
    · rw [build, hscope, Except.bind, hnodes] at h
      cases h
    · rw [build_of_nodes hscope hnodes] at h
      rcases hfirst : firstUnparsable? (Node.mixed nodes).expressions with _ | e
      · rw [hfirst] at h
        cases h
        exact ⟨scope, nodes, rfl, hnodes, rfl, hfirst⟩
      · rw [hfirst] at h
        cases h

/-- **Expressions are checked when a template is built.** In a template that has been built every
listed expression can be parsed. Its tree has no others evaluated, as it runs alike with all engines
that agree on these; and no run of the tree, under any bindings, fails on the text of an
expression. Conversely, where the filter is a pattern and the structure is sound, building fails on
the text of an expression exactly if one that the tree lists cannot be parsed, and the error names
the first of them. -/
theorem build_checked (directives : List Directive) (c : Configuration) :
    (∀ t, build directives c = .ok t →
      (∀ e ∈ t.root.expressions, ∃ x, Expr.parse e = .ok x) ∧
      (∀ g : Engine, g.AgreeOn t.root.expressions Engine.standard → t.root.runWith g = t.root.run) ∧
      ∀ env e cause, (t.root.run env).result ≠ .error (.unparsable e cause)) ∧
    ∀ scope nodes, Scope.ofConfiguration c = .ok scope → buildNodes scope directives = .ok nodes →
      ((∃ e cause, build directives c = .error (.unparsable e cause)) ↔
        ∃ e ∈ (Node.mixed nodes).expressions, ∀ x, Expr.parse e ≠ .ok x) ∧
      ∀ e cause, build directives c = .error (.unparsable e cause) ↔
        ∃ before after, (Node.mixed nodes).expressions = before ++ e :: after ∧
          (∀ e' ∈ before, ∃ x, Expr.parse e' = .ok x) ∧ Expr.parse e = .error cause := by
  constructor
  · intro t ht
    obtain ⟨_, _, -, -, -, hfirst⟩ := of_build_eq_ok ht
    have hparsed := firstUnparsable?_eq_none_iff.1 hfirst
    refine ⟨hparsed, fun g hg => ?_, fun env e cause h => ?_⟩
    · rw [(Node.confined_runWith t.root).agree g Engine.standard hg, Node.runWith_standard]
    · obtain ⟨e', he', hno⟩ := Node.mem_expressions_of_unparsable h
      obtain ⟨x, hx⟩ := hparsed e' he'
      exact hno x hx
  · intro scope nodes hscope hnodes
    have herror (err : BuildError) : build directives c = .error err ↔
        firstUnparsable? (Node.mixed nodes).expressions = some err := by
      rw [build_of_nodes hscope hnodes]
      rcases firstUnparsable? (Node.mixed nodes).expressions with _ | err' <;> simp
    constructor
    · simp only [herror]
      constructor
      · rintro ⟨_, _, h⟩
        obtain ⟨before, e, after, cause, hsplit, -, hparse, -⟩ := firstUnparsable?_eq_some_iff.1 h
        refine ⟨e, by rw [hsplit]; simp, fun x hx => ?_⟩
        rw [hparse] at hx
        cases hx
      · rintro ⟨e, he, hno⟩
        rcases h : firstUnparsable? (Node.mixed nodes).expressions with _ | err
        · obtain ⟨x, hx⟩ := firstUnparsable?_eq_none_iff.1 h e he
          exact absurd hx (hno x)
        · obtain ⟨_, e', _, cause, -, -, -, rfl⟩ := firstUnparsable?_eq_some_iff.1 h
          exact ⟨e', cause, rfl⟩
    · intro e cause
      rw [herror, firstUnparsable?_eq_some_iff]
      constructor
      · rintro ⟨before, _, after, _, hsplit, hbefore, hparse, heq⟩
        obtain ⟨rfl, rfl⟩ := BuildError.unparsable.inj heq
        exact ⟨before, after, hsplit, hbefore, hparse⟩
      · rintro ⟨before, after, hsplit, hbefore, hparse⟩
        exact ⟨before, e, after, cause, hsplit, hbefore, hparse, rfl⟩

/-- A test, a collection, a condition and a substitution are parsed, and the value of a binding.
Of a blank condition and a blank value, the condition is the first fault. -/
theorem build_checked_nested :
    let loop : Loop := { collection := "ids".toList }
    let text : Text := "ORDER BY $\x7bc[0]\x7d".toList
    let directives (test value : Text) : List Directive :=
      [.guard "a".toList [.loop loop [.choose [(test, [.text text])] none]],
        .bind "z".toList value]
    (∃ t, build (directives "a.b".toList "b".toList) {} = .ok t ∧
      ∀ env e cause, (t.root.run env).result ≠ .error (.unparsable e cause)) ∧
    build (directives " ".toList []) {} = .error (.unparsable " ".toList .empty) := by
  intro loop text directives
  let nodes (test value : Text) : List Node :=
    [.guard "a".toList (.loop loop (.choose
      [(test, .text (Properties.substitute Table.empty text) none)] none)),
      .bind "z".toList value]
  have hnodes (test value : Text) :
      buildNodes ⟨Table.empty, none⟩ (directives test value) = .ok (nodes test value) := by
    simp only [directives, buildNodes, buildNode, buildBody, buildBranches, buildOption]
    rfl
  have hscope : Scope.ofConfiguration {} = .ok ⟨Table.empty, none⟩ := rfl
  have htokens : Delimiters.substitution.tokens (Properties.substitute Table.empty text) =
      ["c[0]".toList] := by decide +kernel
  have hexpressions (test value : Text) : (Node.mixed (nodes test value)).expressions =
      ["a".toList, "ids".toList] ++ test :: ["c[0]".toList, value] := by
    simp only [nodes, Node.expressions, Node.listExpressions, Node.branchExpressions,
      Node.optionExpressions, htokens]
    rfl
  have ha : ∃ x, Expr.parse "a".toList = .ok x := ⟨_, Path.parse_name (by decide)⟩
  have hids : ∃ x, Expr.parse "ids".toList = .ok x := ⟨_, Path.parse_name (by decide)⟩
  have hbefore : ∀ e ∈ ["a".toList, "ids".toList], ∃ x, Expr.parse e = .ok x :=
    List.forall_mem_cons.2 ⟨ha, List.forall_mem_singleton.2 hids⟩
  constructor
  · have hpath (name : Text) (path : Path) (hname : isIdentifier name = true)
        (hvalid : path.isValid = true) : ∃ x, Expr.parse (name ++ path.text) = .ok x :=
      ⟨_, Path.parse_text hname hvalid⟩
    have htest : ∃ x, Expr.parse "a.b".toList = .ok x :=
      hpath "a".toList [.field "b".toList] (by decide) (by decide)
    have hindex : ∃ x, Expr.parse "c[0]".toList = .ok x :=
      hpath "c".toList [.index false "0".toList] (by decide) (by decide)
    have hb : ∃ x, Expr.parse "b".toList = .ok x := ⟨_, Path.parse_name (by decide)⟩
    have hafter : ∀ e ∈ ["a.b".toList, "c[0]".toList, "b".toList], ∃ x, Expr.parse e = .ok x :=
      List.forall_mem_cons.2
        ⟨htest, List.forall_mem_cons.2 ⟨hindex, List.forall_mem_singleton.2 hb⟩⟩
    have hbuild := build_of_nodes hscope (hnodes "a.b".toList "b".toList)
    rw [hexpressions, firstUnparsable?_eq_none_iff.2 (List.forall_mem_append.2 ⟨hbefore, hafter⟩)]
      at hbuild
    exact ⟨_, hbuild, ((build_checked _ _).1 _ hbuild).2.2⟩
  · have hblank : Expr.parse " ".toList = .error .empty := by
      rw [Expr.parse, TokenStream.ofText]
      rfl
    exact (((build_checked _ _).2 _ _ hscope (hnodes " ".toList [])).2 _ _).2
      ⟨_, _, hexpressions " ".toList [], hbefore, hblank⟩

end DynamicSql.Template
