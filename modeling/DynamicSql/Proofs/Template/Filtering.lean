import DynamicSql.Proofs.Delimited.Division
import DynamicSql.Proofs.Node.Context
import DynamicSql.Proofs.Results
import DynamicSql.Proofs.Template.Checking

/-!
# Filtered templates

A filter in the configuration restricts the values that are spliced into SQL text.

* `texts_of_buildNodes`: the texts of a tree are those of the directives, at any depth, and each of
  them has the filter.
* `textWith_eq`: text is written as a whole or not at all; the first substitution at fault decides.
* `filter_enforced`: so no value gets into a text unless the filter matches all of it.
-/

namespace DynamicSql

/-! ## Texts of directives and nodes -/

namespace Directive

mutual

/-- The texts of a directive, in order. -/
def texts : Directive → List Text
  | text content => [content]
  | guard _ body => listTexts body
  | choose branches otherwise => branchTexts branches ++ optionTexts otherwise
  | loop _ body => listTexts body
  | trim _ body => listTexts body
  | whereClause body => listTexts body
  | setClause body => listTexts body
  | bind _ _ => []

/-- The texts of several directives. -/
def listTexts : List Directive → List Text
  | [] => []
  | directive :: rest => directive.texts ++ listTexts rest

/-- The texts of the bodies of branches. -/
def branchTexts : List (Text × List Directive) → List Text
  | [] => []
  | (_, body) :: rest => listTexts body ++ branchTexts rest

/-- The texts of a body that may be missing. -/
def optionTexts : Option (List Directive) → List Text
  | none => []
  | some body => listTexts body

end

end Directive

namespace Node

mutual

/-- The texts of a node with their filters, in order. -/
def texts : Node → List (Text × Option Pattern)
  | text content filter => [(content, filter)]
  | guard _ body => body.texts
  | choose branches otherwise => branchTexts branches ++ optionTexts otherwise
  | loop _ body => body.texts
  | trim _ body => body.texts
  | bind _ _ => []
  | mixed children => listTexts children

/-- The texts of several nodes. -/
def listTexts : List Node → List (Text × Option Pattern)
  | [] => []
  | child :: rest => child.texts ++ listTexts rest

/-- The texts of the bodies of branches. -/
def branchTexts : List (Text × Node) → List (Text × Option Pattern)
  | [] => []
  | (_, body) :: rest => body.texts ++ branchTexts rest

/-- The texts of an optional node. -/
def optionTexts : Option Node → List (Text × Option Pattern)
  | none => []
  | some node => node.texts

end

end Node

namespace Template

/-- A body has the texts of its nodes. -/
lemma texts_bodyOf (nodes : List Node) : (bodyOf nodes).texts = Node.listTexts nodes := by
  match nodes with
  | [] => simp only [bodyOf, Node.texts]
  | [node] => simp only [bodyOf, Node.listTexts, List.append_nil]
  | _ :: _ :: _ => simp only [bodyOf, Node.texts]

/-- A text as a scope fills it in, with the filter of the scope. -/
def Scope.filled (scope : Scope) (content : Text) : Text × Option Pattern :=
  (scope.properties.substitute content, scope.filter)

variable {scope : Scope}

mutual

/-- The texts of a node are those of its directive, filled in and filtered. -/
theorem texts_of_buildNode : (directive : Directive) → {node : Node} →
    buildNode scope directive = .ok node → node.texts = directive.texts.map scope.filled
  | .text content, node, h => by
      rw [buildNode] at h
      obtain rfl := Except.ok.inj h
      simp only [Node.texts, Directive.texts]
      rfl
  | .guard _ body, node, h | .trim _ body, node, h | .whereClause body, node, h
  | .setClause body, node, h => by
      rw [buildNode, map_eq_ok_iff] at h
      obtain ⟨inner, hbody, rfl⟩ := h
      simpa only [Node.texts, Directive.texts] using texts_of_buildBody body hbody
  | .choose branches otherwise, node, h => by
      obtain ⟨-, inner, last, hbranches, hotherwise, rfl⟩ := buildNode_choose_eq_ok_iff.1 h
      simp only [Node.texts, Directive.texts, List.map_append,
        texts_of_buildBranches branches hbranches, texts_of_buildOption otherwise hotherwise]
  | .loop l body, node, h => by
      obtain ⟨-, -, -, inner, hbody, rfl⟩ := buildNode_loop_eq_ok_iff.1 h
      simpa only [Node.texts, Directive.texts] using texts_of_buildBody body hbody
  | .bind name value, node, h => by
      obtain ⟨-, rfl⟩ := buildNode_bind_eq_ok_iff.1 h
      simp only [Node.texts, Directive.texts, List.map_nil]

/-- **The texts of several nodes** are those of the directives, filled in and filtered. -/
theorem texts_of_buildNodes : (directives : List Directive) → {nodes : List Node} →
    buildNodes scope directives = .ok nodes →
      Node.listTexts nodes = (Directive.listTexts directives).map scope.filled
  | [], nodes, h => by
      rw [buildNodes] at h
      obtain rfl := Except.ok.inj h
      simp only [Node.listTexts, Directive.listTexts, List.map_nil]
  | directive :: rest, nodes, h => by
      obtain ⟨node, others, hnode, hothers, rfl⟩ := buildNodes_cons_eq_ok_iff.1 h
      simp only [Node.listTexts, Directive.listTexts, List.map_append,
        texts_of_buildNode directive hnode, texts_of_buildNodes rest hothers]

/-- The texts of the node of a body. -/
theorem texts_of_buildBody : (body : List Directive) → {node : Node} →
    buildBody scope body = .ok node → node.texts = (Directive.listTexts body).map scope.filled
  | body, node, h => by
      rw [buildBody, map_eq_ok_iff] at h
      obtain ⟨nodes, hnodes, rfl⟩ := h
      rw [texts_bodyOf, texts_of_buildNodes body hnodes]

/-- The texts of branches. -/
theorem texts_of_buildBranches : (branches : List (Text × List Directive)) →
    {nodes : List (Text × Node)} → buildBranches scope branches = .ok nodes →
      Node.branchTexts nodes = (Directive.branchTexts branches).map scope.filled
  | [], nodes, h => by
      rw [buildBranches] at h
      obtain rfl := Except.ok.inj h
      simp only [Node.branchTexts, Directive.branchTexts, List.map_nil]
  | (test, body) :: rest, nodes, h => by
      obtain ⟨node, others, hnode, hothers, rfl⟩ := buildBranches_cons_eq_ok_iff.1 h
      simp only [Node.branchTexts, Directive.branchTexts, List.map_append,
        texts_of_buildBody body hnode, texts_of_buildBranches rest hothers]

/-- The texts of a body that may be missing. -/
theorem texts_of_buildOption : (body? : Option (List Directive)) → {node? : Option Node} →
    buildOption scope body? = .ok node? →
      Node.optionTexts node? = (Directive.optionTexts body?).map scope.filled
  | none, node?, h => by
      rw [buildOption] at h
      obtain rfl := Except.ok.inj h
      simp only [Node.optionTexts, Directive.optionTexts, List.map_nil]
  | some body, node?, h => by
      rw [buildOption, map_eq_ok_iff] at h
      obtain ⟨node, hnode, rfl⟩ := h
      simpa only [Node.optionTexts, Directive.optionTexts] using texts_of_buildBody body hnode

end

end Template

/-! ## What an engine lets through -/

namespace Engine

variable (g : Engine) (p : Pattern) (b : Bindings) (expression : Text)

/-- An expression has a value that a filter lets through: the leftmost match is all of it. -/
def Admits (value : Text) : Prop :=
  ∃ v, g.eval b expression = .ok v ∧ v.toSql = value ∧ g.find? p value = some (0, value.length)

/-- An expression is at fault: it has no value, or one that a filter rejects. -/
def Offends (err : EvalError) : Prop :=
  g.eval b expression = .error err ∨
    ∃ v, g.eval b expression = .ok v ∧ g.find? p v.toSql ≠ some (0, v.toSql.length) ∧
      err = .rejected v.toSql p.source

variable {g p b expression}

/-- A substitution stands for the value that the filter lets through. -/
lemma substitutionText_eq_ok_iff {value : Text} :
    g.substitutionText b (some p) expression = .ok value ↔ g.Admits p b expression value := by
  rw [substitutionText, bind_eq_ok_iff, Admits]
  refine exists_congr fun v => and_congr_right fun _ => ?_
  rw [filtered]
  split
  · rename_i h
    rw [Except.ok.injEq]
    refine ⟨?_, fun h' => h'.1⟩
    rintro rfl
    exact ⟨rfl, by simpa using h⟩
  · rename_i h
    simp only [reduceCtorEq, false_iff, not_and]
    rintro rfl
    simpa using h

/-- A substitution stands for nothing if its expression is at fault. -/
lemma substitutionText_eq_error_iff {err : EvalError} :
    g.substitutionText b (some p) expression = .error err ↔ g.Offends p b expression err := by
  rw [substitutionText, Offends]
  rcases g.eval b expression with e | v
  · simp [Except.bind]
  · simp only [Except.bind, reduceCtorEq, Except.ok.injEq, exists_eq_left', false_or, filtered]
    split
    · rename_i h
      simpa using fun h' => absurd (by simpa using h) h'
    · rename_i h
      rw [Except.error.injEq, eq_comm]
      exact ⟨fun h' => ⟨by simpa using h, h'⟩, fun h' => h'.2⟩

end Engine

/-! ## Text in a context -/

namespace Node

/-- The bindings for the substitutions of a text: a scalar parameter has a name in them. -/
def textBindings (content : Text) (b : Bindings) : Bindings :=
  if isDynamicText content then bindScalar b else b

/-- A text with values in place of its substitutions. A text that has none stays as it is, with its
escapes. -/
def splicedText (content : Text) (values : List Text) : Text :=
  if isDynamicText content then (Delimiters.substitution.division content).fill values else content

/-- **What a text writes.** It is written as a whole if all its substitutions stand for something;
the first that does not ends the run, and nothing is written. -/
theorem textWith_eq (g : Engine) (content : Text) (filter : Option Pattern) (env : Env) :
    textWith g content filter env =
      let b := textBindings content env.bindings
      match (Delimiters.substitution.tokens content).mapM (g.substitutionText b filter) with
      | .ok values => ⟨[splicedText content values], { env with bindings := b }, .ok true⟩
      | .error err => ⟨[], { env with bindings := b }, .error err⟩ := by
  by_cases h : isDynamicText content = true
  · simp only [textBindings, splicedText, textWith, if_pos h]
    have hspliced : g.spliced (bindScalar env.bindings) filter content =
        ((Delimiters.substitution.tokens content).mapM
          (g.substitutionText (bindScalar env.bindings) filter)).map
          (Delimiters.substitution.division content).fill := Delimiters.scan_eq _ _ _
    change Run.bind (Run.modifyBindings bindScalar) (fun _ =>
      Run.bind (Run.ofBindings (g.spliced · filter content)) fun sql =>
        Run.bind (Run.write sql) fun _ => Run.pure true) env = _
    simp only [Run.bind, Run.modifyBindings, Run.ofBindings, hspliced]
    rcases (Delimiters.substitution.tokens content).mapM _ with err | values
    · rfl
    · rfl
  · have htokens : Delimiters.substitution.tokens content = [] := by
      simpa [isDynamicText, Delimiters.hasToken] using h
    simp only [textBindings, splicedText, textWith, if_neg h, htokens, List.mapM_nil]
    rfl

/-- **A filtered text in a context.** Whatever engine evaluates and searches, the context takes the
text with the values spliced in if the filter lets each of them through, and the run fails on the
first expression at fault otherwise; then the context takes nothing. -/
lemma filtered_into {σ : Type} (g : Engine) (append : σ → Text → σ) (content : Text) (p : Pattern)
    (s : σ) (env : Env) :
    let b := textBindings content env.bindings
    let tokens := Delimiters.substitution.tokens content
    let outcome := (textWith g content (some p)).into append (s, env)
    ((∃ taken, outcome.1 = .ok taken) ↔ ∀ e ∈ tokens, ∃ value, g.Admits p b e value) ∧
    (∀ values, List.Forall₂ (g.Admits p b) tokens values →
      outcome = (.ok true, (append s (splicedText content values), { env with bindings := b }))) ∧
    (∀ err, outcome.1 = .error err ↔ ∃ before e after, tokens = before ++ e :: after ∧
      (∀ e' ∈ before, ∃ value, g.Admits p b e' value) ∧ g.Offends p b e err) ∧
    ∀ err, outcome.1 = .error err → outcome = (.error err, (s, { env with bindings := b })) := by
  intro b tokens outcome
  have hok (e value : Text) : g.Admits p b e value ↔ g.substitutionText b (some p) e = .ok value :=
    Engine.substitutionText_eq_ok_iff.symm
  have hall : (∀ e ∈ tokens, ∃ value, g.Admits p b e value) ↔
      ∃ values, tokens.mapM (g.substitutionText b (some p)) = .ok values := by
    simp only [hok, exists_mapM_eq_ok_iff]
  have hvalues (values : List Text) : List.Forall₂ (g.Admits p b) tokens values ↔
      tokens.mapM (g.substitutionText b (some p)) = .ok values := by
    rw [mapM_eq_ok_iff]
    exact ⟨fun h => h.imp fun e v => (hok e v).1, fun h => h.imp fun e v => (hok e v).2⟩
  have hfault (err : EvalError) : (∃ before e after, tokens = before ++ e :: after ∧
      (∀ e' ∈ before, ∃ value, g.Admits p b e' value) ∧ g.Offends p b e err) ↔
      tokens.mapM (g.substitutionText b (some p)) = .error err := by
    simp only [hok, mapM_eq_error_iff, Engine.substitutionText_eq_error_iff]
  simp only [hall, hvalues, hfault]
  have hwritten := textWith_eq g content (some p) env
  rcases h : tokens.mapM (g.substitutionText b (some p)) with err | values
  · have hout : outcome = (.error err, (s, { env with bindings := b })) := by
      simp only [tokens, b] at h
      simp only [outcome, Run.into, hwritten, h, List.foldl_nil, b]
    rw [hout]
    simp
  · have hout : outcome =
        (.ok true, (append s (splicedText content values), { env with bindings := b })) := by
      simp only [tokens, b] at h
      simp only [outcome, Run.into, hwritten, h, List.foldl_cons, List.foldl_nil, b]
    rw [hout]
    simp

end Node

namespace Template

/-! ## Templates with a filter -/

/-- A compiled pattern keeps the text that describes it. -/
lemma source_of_compile? {source : Text} {p : Pattern} (h : Pattern.compile? source = some p) :
    p.source = source := by
  rw [Pattern.compile?] at h
  obtain ⟨tree?, -, h⟩ := Option.bind_eq_some_iff.1 h
  obtain ⟨tree, -, h⟩ := Option.bind_eq_some_iff.1 h
  split at h
  · exact (Option.some.inj h).symm ▸ rfl
  · cases h

/-- A template that has been built has the filter of its configuration. -/
lemma filter_of_ofConfiguration {c : Configuration} {source : Text} {scope : Scope}
    (hfilter : c.filter = some source) (h : Scope.ofConfiguration c = .ok scope) :
    ∃ p, Pattern.compile? (Pattern.anchored source) = some p ∧ scope = ⟨c.properties, some p⟩ := by
  simp only [Scope.ofConfiguration, hfilter] at h
  split at h
  · rename_i p hp
    exact ⟨p, hp, (Except.ok.inj h).symm⟩
  · cases h

/-- **No value gets past the filter.** In a template built with a filter, every text of the
directives, at any depth, is a text of the tree that carries this filter, and the tree has no
others. In a context it does what the standard engine says. Whatever way there is to evaluate
expressions and to search for patterns, the text is written, in any context, exactly if every
substitution has a value and the leftmost match of the filter is all of that value; then the context
takes the text with these values spliced in. Otherwise the error is that of the first substitution
at fault, and the context takes nothing. -/
theorem filter_enforced {directives : List Directive} {c : Configuration} {source : Text}
    {t : Template} (hfilter : c.filter = some source) (hbuild : build directives c = .ok t) :
    ∃ p, Pattern.compile? (Pattern.anchored source) = some p ∧
      p.source = Pattern.anchored source ∧
      t.root.texts =
        (Directive.listTexts directives).map (fun s => (c.properties.substitute s, some p)) ∧
      ∀ content filter, (content, filter) ∈ t.root.texts → filter = some p ∧
        (∀ (σ : Type) (append : σ → Text → σ), (Node.text content filter).runIn append =
          ((Node.text content filter).runWith Engine.standard).into append) ∧
        ∀ (σ : Type) (g : Engine) (append : σ → Text → σ) (s : σ) (env : Env),
          let b := Node.textBindings content env.bindings
          let tokens := Delimiters.substitution.tokens content
          let outcome := ((Node.text content filter).runWith g).into append (s, env)
          ((∃ taken, outcome.1 = .ok taken) ↔ ∀ e ∈ tokens, ∃ value, g.Admits p b e value) ∧
          (∀ values, List.Forall₂ (g.Admits p b) tokens values → outcome =
            (.ok true, (append s (Node.splicedText content values), { env with bindings := b }))) ∧
          (∀ err, outcome.1 = .error err ↔ ∃ before e after, tokens = before ++ e :: after ∧
            (∀ e' ∈ before, ∃ value, g.Admits p b e' value) ∧ g.Offends p b e err) ∧
          ∀ err, outcome.1 = .error err →
            outcome = (.error err, (s, { env with bindings := b })) := by
  obtain ⟨scope, nodes, hscope, hnodes, hroot, -⟩ := of_build_eq_ok hbuild
  obtain ⟨p, hcompile, rfl⟩ := filter_of_ofConfiguration hfilter hscope
  have htexts : t.root.texts =
      (Directive.listTexts directives).map (fun s => (c.properties.substitute s, some p)) := by
    rw [hroot, Node.texts]
    exact texts_of_buildNodes directives hnodes
  refine ⟨p, hcompile, source_of_compile? hcompile, htexts, fun content filter hmem => ?_⟩
  have hsome : filter = some p := by
    rw [htexts] at hmem
    obtain ⟨s, -, heq⟩ := List.mem_map.1 hmem
    exact (Prod.mk.inj heq).2.symm
  subst hsome
  refine ⟨rfl, fun σ append => ?_, fun σ g append s env => ?_⟩
  · rw [Node.runIn_eq, Node.runWith_standard]
  · exact Node.filtered_into g append content p s env

/-- A column is spliced into an order inside a loop and a choice; a statement is not. -/
theorem filter_enforced_order :
    let text : Text := "ORDER BY $\x7bc\x7d".toList
    let directives : List Directive :=
      [.loop { collection := "ids".toList } [.choose [("a".toList, [.text text])] none]]
    let env (column : String) : Env :=
      ⟨Bindings.ofCall (.object [("c".toList, .string column.toList)]) none, 0⟩
    ∃ t p, build directives { filter := some "[a-z]+".toList } = .ok t ∧
      t.root.texts = [(text, some p)] ∧
      (((Node.text text (some p)).runWith Engine.standard).into Fragment.append
        ("x".toList, env "title")).2.1 = "x ORDER BY title".toList ∧
      ((Node.text text (some p)).runWith Engine.standard).into Fragment.append
        ("x".toList, env "t;") =
          (.error (.rejected "t;".toList "^(?:[a-z]+)$".toList), ("x".toList, env "t;")) := by
  intro text directives env
  have hsome : (Pattern.compile? (Pattern.anchored "[a-z]+".toList)).isSome = true := by
    decide +kernel
  obtain ⟨p, hp⟩ := Option.isSome_iff_exists.1 hsome
  have hfind (value : String) (found : Option (Nat × Nat))
      (h : ((Pattern.compile? (Pattern.anchored "[a-z]+".toList)).map fun p =>
        p.find? value.toList) = some found) : p.find? value.toList = found := by
    rw [hp] at h
    exact Option.some.inj h
  have htext : Properties.substitute Table.empty text = text := by decide +kernel
  have htokens : Delimiters.substitution.tokens text = ["c".toList] := by decide +kernel
  let nodes : List Node :=
    [.loop { collection := "ids".toList } (.choose [("a".toList, .text text (some p))] none)]
  have hscope : Scope.ofConfiguration { filter := some "[a-z]+".toList } =
      .ok ⟨Table.empty, some p⟩ := by
    simp only [Scope.ofConfiguration, hp]
  have hnodes : buildNodes ⟨Table.empty, some p⟩ directives = .ok nodes := by
    simp only [directives, buildNodes, buildNode, buildBody, buildBranches, buildOption, htext]
    rfl
  have hexpressions :
      (Node.mixed nodes).expressions = ["ids".toList, "a".toList, "c".toList] := by
    simp only [nodes, Node.expressions, Node.listExpressions, Node.branchExpressions,
      Node.optionExpressions, htokens]
    rfl
  have hparsed : firstUnparsable? (Node.mixed nodes).expressions = none := by
    rw [hexpressions, firstUnparsable?_eq_none_iff]
    simp only [List.forall_mem_cons, List.not_mem_nil, false_imp_iff, implies_true, and_true]
    exact ⟨⟨_, Path.parse_name (by decide)⟩, ⟨_, Path.parse_name (by decide)⟩,
      ⟨_, Path.parse_name (by decide)⟩⟩
  have hbuild := build_of_nodes hscope hnodes
  rw [hparsed] at hbuild
  obtain ⟨p', hp', -, htexts, henforced⟩ := filter_enforced rfl hbuild
  obtain rfl : p = p' := Option.some.inj (hp.symm.trans hp')
  have hroot : (Node.mixed nodes).texts = [(text, some p)] := rfl
  obtain ⟨-, -, hcontext⟩ := henforced text (some p) (by rw [hroot]; simp)
  have hbindings (column : String) :
      Node.textBindings text (env column).bindings = (env column).bindings := by
    rw [Node.textBindings, Node.bindScalar]
    split
    · rfl
    · rfl
  have heval (column : String) :
      (env column).bindings.eval "c".toList = .ok (.string column.toList) := by
    rw [Bindings.eval, Path.parse_name (by decide)]
    rfl
  refine ⟨_, p, hbuild, hroot, ?_, ?_⟩
  · obtain ⟨-, hwritten, -⟩ :=
      hcontext Text Engine.standard Fragment.append "x".toList (env "title")
    have hadmits : Engine.standard.Admits p (env "title").bindings "c".toList "title".toList :=
      ⟨_, heval "title", rfl, hfind "title" (some (0, 5)) (by decide +kernel)⟩
    rw [hwritten ["title".toList] (by rw [hbindings, htokens]; exact .cons hadmits .nil)]
    decide +kernel
  · obtain ⟨-, -, hfault, hkept⟩ :=
      hcontext Text Engine.standard Fragment.append "x".toList (env "t;")
    have hnone : p.find? "t;".toList = none := hfind "t;" none (by decide +kernel)
    have hoffends : Engine.standard.Offends p (env "t;").bindings "c".toList
        (.rejected "t;".toList p.source) := by
      refine Or.inr ⟨_, heval "t;", ?_, rfl⟩
      change p.find? "t;".toList ≠ _
      rw [hnone]
      exact (Option.some_ne_none _).symm
    rw [hbindings, htokens] at hfault
    have hout := hkept _ ((hfault _).2 ⟨[], "c".toList, [], rfl, by simp, hoffends⟩)
    rw [hbindings, source_of_compile? hp] at hout
    exact hout

end Template

end DynamicSql
