import DynamicSql.Proofs.Expr.Names
import DynamicSql.Proofs.Node.Frame
import DynamicSql.Proofs.Results
import DynamicSql.Proofs.Template.Checking

/-!
# The names that a template binds

Building a template checks the names that it is going to bind: an alias has to be a name, and what
is bound by itself must not be blank.

* `namesChecked_of_build`: wherever a template that has been built gives a name, it has passed.
* `eval_names`: so the aliases are the names, and what is bound by itself are the trimmed texts; and
  among these it is the identifiers that an expression can refer to.
-/

namespace DynamicSql

/-- A node gives no names but those that a template may have: the aliases of a loop are names, and
what is bound by itself is trimmed. -/
def Node.NamesChecked : Node → Prop
  | loop l _ => ∀ name ∈ l.aliases, Text.isName name = true
  | bind name _ => name ≠ [] ∧ Text.trim name = name
  | _ => True

namespace Template

variable {scope : Scope}

/-- An alias that passes the check is a name. -/
lemma isName_of_checkAlias {role : AliasRole} {name? : Option Text}
    (h : checkAlias role name? = .ok ()) : ∀ name ∈ name?, Text.isName name = true := by
  rintro name ⟨⟩
  rw [checkAlias] at h
  split at h
  · assumption
  · cases h

/-- A body has the parts of its nodes, and perhaps one that is no loop and binds nothing. -/
lemma namesChecked_bodyOf {nodes : List Node} (h : ∀ part ∈ Node.listParts nodes, part.NamesChecked) :
    ∀ part ∈ (bodyOf nodes).parts, part.NamesChecked := by
  match nodes with
  | [node] => simpa only [bodyOf, Node.listParts, List.append_nil] using h
  | [] | _ :: _ :: _ =>
    simp only [bodyOf, Node.parts]
    exact List.forall_mem_cons.2 ⟨trivial, h⟩

mutual

/-- The parts of a node that has been built give checked names. -/
theorem namesChecked_of_buildNode : (directive : Directive) → {node : Node} →
    buildNode scope directive = .ok node → ∀ part ∈ node.parts, part.NamesChecked
  | .text content, node, h => by
      rw [buildNode] at h
      obtain rfl := Except.ok.inj h
      exact List.forall_mem_singleton.2 trivial
  | .guard _ body, node, h | .trim _ body, node, h | .whereClause body, node, h
  | .setClause body, node, h => by
      rw [buildNode, map_eq_ok_iff] at h
      obtain ⟨inner, hbody, rfl⟩ := h
      exact List.forall_mem_cons.2 ⟨trivial, namesChecked_of_buildBody body hbody⟩
  | .choose branches otherwise, node, h => by
      obtain ⟨-, inner, last, hbranches, hotherwise, rfl⟩ := buildNode_choose_eq_ok_iff.1 h
      rw [Node.parts, List.forall_mem_cons, List.forall_mem_append]
      exact ⟨trivial, namesChecked_of_buildBranches branches hbranches,
        namesChecked_of_buildOption otherwise hotherwise⟩
  | .loop l body, node, h => by
      obtain ⟨-, hitem, hindex, inner, hbody, rfl⟩ := buildNode_loop_eq_ok_iff.1 h
      refine List.forall_mem_cons.2 ⟨fun name hname => ?_, namesChecked_of_buildBody body hbody⟩
      obtain hname | hname := Loop.mem_aliases_iff.1 hname
      · exact isName_of_checkAlias hitem name hname
      · exact isName_of_checkAlias hindex name hname
  | .bind name value, node, h => by
      obtain ⟨hname, rfl⟩ := buildNode_bind_eq_ok_iff.1 h
      exact List.forall_mem_singleton.2 ⟨hname, Text.trim_trim name⟩

/-- The parts of several nodes. -/
theorem namesChecked_of_buildNodes : (directives : List Directive) → {nodes : List Node} →
    buildNodes scope directives = .ok nodes → ∀ part ∈ Node.listParts nodes, part.NamesChecked
  | [], nodes, h => by
      rw [buildNodes] at h
      obtain rfl := Except.ok.inj h
      nofun
  | directive :: rest, nodes, h => by
      obtain ⟨node, others, hnode, hothers, rfl⟩ := buildNodes_cons_eq_ok_iff.1 h
      rw [Node.listParts, List.forall_mem_append]
      exact ⟨namesChecked_of_buildNode directive hnode, namesChecked_of_buildNodes rest hothers⟩

/-- The parts of a body. -/
theorem namesChecked_of_buildBody : (body : List Directive) → {node : Node} →
    buildBody scope body = .ok node → ∀ part ∈ node.parts, part.NamesChecked
  | body, node, h => by
      rw [buildBody, map_eq_ok_iff] at h
      obtain ⟨nodes, hnodes, rfl⟩ := h
      exact namesChecked_bodyOf (namesChecked_of_buildNodes body hnodes)

/-- The parts of branches. -/
theorem namesChecked_of_buildBranches : (branches : List (Text × List Directive)) →
    {nodes : List (Text × Node)} → buildBranches scope branches = .ok nodes →
      ∀ part ∈ Node.branchParts nodes, part.NamesChecked
  | [], nodes, h => by
      rw [buildBranches] at h
      obtain rfl := Except.ok.inj h
      nofun
  | (test, body) :: rest, nodes, h => by
      obtain ⟨node, others, hnode, hothers, rfl⟩ := buildBranches_cons_eq_ok_iff.1 h
      rw [Node.branchParts, List.forall_mem_append]
      exact ⟨namesChecked_of_buildBody body hnode, namesChecked_of_buildBranches rest hothers⟩

/-- The parts of a body that may be missing. -/
theorem namesChecked_of_buildOption : (body? : Option (List Directive)) → {node? : Option Node} →
    buildOption scope body? = .ok node? → ∀ part ∈ Node.optionParts node?, part.NamesChecked
  | none, node?, h => by
      rw [buildOption] at h
      obtain rfl := Except.ok.inj h
      nofun
  | some body, node?, h => by
      rw [buildOption, map_eq_ok_iff] at h
      obtain ⟨node, hnode, rfl⟩ := h
      exact namesChecked_of_buildBody body hnode

end

/-- **The names of a template**, wherever it gives them, have been checked. -/
theorem namesChecked_of_build {directives : List Directive} {c : Configuration} {t : Template}
    (h : build directives c = .ok t) : ∀ part ∈ t.root.parts, part.NamesChecked := by
  obtain ⟨scope, nodes, -, hnodes, hroot, -⟩ := of_build_eq_ok h
  rw [hroot, Node.parts]
  exact List.forall_mem_cons.2 ⟨trivial, namesChecked_of_buildNodes directives hnodes⟩

/-! ## The names that there may be -/

/-- Without properties and a filter, a template is built of its nodes. -/
lemma build_default {directives : List Directive} {nodes : List Node}
    (hnodes : buildNodes ⟨Table.empty, none⟩ directives = .ok nodes)
    (hparsed : ∀ e ∈ (Node.mixed nodes).expressions, ∃ x, Expr.parse e = .ok x) :
    build directives {} = .ok { root := .mixed nodes } := by
  rw [build_of_nodes rfl hnodes, firstUnparsable?_eq_none_iff.2 hparsed]

/-- The name of a collection can be parsed. -/
lemma parse_ids : ∃ x, Expr.parse "ids".toList = .ok x := ⟨_, Path.parse_name (by decide)⟩

/-- Every name is an alias in some template. -/
lemma exists_loop {name : Text} (hname : Text.isName name = true) :
    ∃ t, build [.loop { collection := "ids".toList, item := some name } []] {} = .ok t ∧
      name ∈ Node.loopAliases t.root.parts := by
  have hitem : checkAlias .item (some name) = .ok () := if_pos hname
  have hnodes : buildNodes ⟨Table.empty, none⟩
      [.loop { collection := "ids".toList, item := some name } []] =
        .ok [.loop { collection := "ids".toList, item := some name } (.mixed [])] := by
    simp only [buildNodes, buildNode, buildBody, hitem]
    rfl
  exact ⟨_, build_default hnodes (List.forall_mem_singleton.2 parse_ids), List.mem_singleton.2 rfl⟩

/-- Every trimmed text that is not empty is bound in some template. -/
lemma exists_bind {name : Text} (hne : name ≠ []) (htrim : Text.trim name = name) :
    ∃ t, build [.bind name "ids".toList] {} = .ok t ∧ name ∈ Node.boundNames t.root.parts := by
  have hnodes : buildNodes ⟨Table.empty, none⟩ [.bind name "ids".toList] =
      .ok [.bind name "ids".toList] := by
    have hempty : name.isEmpty = false := List.isEmpty_eq_false_iff.2 hne
    simp only [buildNodes, buildNode, htrim, hempty]
    rfl
  exact ⟨_, build_default hnodes (List.forall_mem_singleton.2 parse_ids), List.mem_singleton.2 rfl⟩

/-- **The names of a template and the names of expressions.** The aliases of the loops in templates
are the texts that are names, and what templates bind by themselves are the texts that are trimmed
and not empty. Such a text is evaluated to the value that it is bound to exactly if it is an
identifier, that is a name and no keyword; evaluating any other does not see that it is bound. -/
theorem eval_names (name : Text) :
    ((∃ directives c t, build directives c = .ok t ∧ name ∈ Node.loopAliases t.root.parts) ↔
      Text.isName name = true) ∧
    ((∃ directives c t, build directives c = .ok t ∧ name ∈ Node.boundNames t.root.parts) ↔
      name ≠ [] ∧ Text.trim name = name) ∧
    ((∀ (b : Bindings) (v : Value), b.get? name = some v → b.eval name = .ok v) ↔
      isIdentifier name = true) ∧
    ∀ (b : Bindings) (v : Value),
      Bindings.eval (b.insert name v) name = if isIdentifier name then .ok v else b.eval name := by
  refine ⟨⟨?aliases, fun hname => ⟨_, _, exists_loop hname⟩⟩,
    ⟨?bound, fun ⟨hne, htrim⟩ => ⟨_, _, exists_bind hne htrim⟩⟩,
    Bindings.forall_eval_iff, fun b v => b.eval_insert name v⟩
  case aliases =>
    rintro ⟨directives, c, t, hbuild, hmem⟩
    obtain ⟨part, hpart, hmem⟩ := List.mem_flatMap.1 hmem
    have hchecked := namesChecked_of_build hbuild part hpart
    cases part with
    | loop l body => exact hchecked name hmem
    | _ => cases hmem
  case bound =>
    rintro ⟨directives, c, t, hbuild, hmem⟩
    obtain ⟨part, hpart, hmem⟩ := List.mem_filterMap.1 hmem
    have hchecked := namesChecked_of_build hbuild part hpart
    cases part with
    | bind other value =>
      cases hmem
      exact hchecked
    | _ => cases hmem

/-- A keyword may be an alias, and a number may be bound, but neither is evaluated to what it is
bound to. -/
theorem keyword_not_referenced :
    let one : Bindings := Table.empty.insert "null".toList (.integer 1)
    let two : Bindings := Table.empty.insert "1".toList (.integer 2)
    (∃ t, build [.loop { collection := "ids".toList, item := some "null".toList } []] {} = .ok t ∧
      "null".toList ∈ Node.loopAliases t.root.parts) ∧
    one.get? "null".toList = some (.integer 1) ∧ one.eval "null".toList = .ok .null ∧
    (∃ t, build [.bind "1".toList "ids".toList] {} = .ok t ∧
      "1".toList ∈ Node.boundNames t.root.parts) ∧
    two.get? "1".toList = some (.integer 2) ∧ two.eval "1".toList = .ok (.integer 1) := by
  have hparse {s : Text} {t : Token} {e : Expr} (hs : Grammar.Lexes 0 s [t])
      (hatom : Grammar.atom? t = some e) : Expr.parse s = .ok e := by
    have hderives : Grammar.Derives .unary [t] e := .pass nofun (.pass nofun (.atom hatom))
    exact Grammar.parse_eq_ok_iff.2 ⟨_, hs, hderives.of_unary⟩
  have hnull : Expr.parse "null".toList = .ok .null := hparse (.token rfl (.ended rfl)) rfl
  have hone : Expr.parse "1".toList = .ok (.integer 1) := hparse (.token rfl (.ended rfl)) rfl
  refine ⟨exists_loop (by decide), rfl, ?_, exists_bind (by decide) (by decide), rfl, ?_⟩
  · rw [Bindings.eval, hnull]
    rfl
  · rw [Bindings.eval, hone]
    rfl

end Template

end DynamicSql
