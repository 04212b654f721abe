import DynamicSql.Proofs.Node.Alike
import DynamicSql.Proofs.Results
import DynamicSql.Template

/-!
# Grouping

The nodes of a body are made into one node, and a node on its own stands for itself. Here templates
are built with any way to group the nodes of a body (`buildWith`), of which the usual one is an
instance (`buildWith_bodyOf`).

* `related_buildNodes`: ways to group that make alike nodes of alike ones lead to the same errors
  and to alike trees.
* `build_indistinguishable`: so nothing tells whether a node on its own was put into a row.
-/

namespace DynamicSql.Template

/-! ## Building with any grouping -/

mutual

/-- The node of a directive, with `group` to make one node of the nodes of a body. -/
def buildNodeWith (group : List Node → Node) (scope : Scope) : Directive → Except BuildError Node
  | .text content => .ok (.text (scope.properties.substitute content) scope.filter)
  | .guard test body => (buildBodyWith group scope body).map (.guard test)
  | .choose branches otherwise =>
    if branches.isEmpty then .error .emptyChoose
    else
      (buildBranchesWith group scope branches).bind fun branches =>
        (buildOptionWith group scope otherwise).map (.choose branches)
  | .loop loop body =>
    if Text.allBlank loop.collection then .error .missingCollection
    else
      (buildBodyWith group scope body).bind fun body =>
        (checkAlias .item loop.item).bind fun _ =>
          (checkAlias .index loop.index).map fun _ => .loop loop body
  | .trim trimming body => (buildBodyWith group scope body).map (.trim (trimRule trimming))
  | .whereClause body => (buildBodyWith group scope body).map (.trim .whereClause)
  | .setClause body => (buildBodyWith group scope body).map (.trim .setClause)
  | .bind name value =>
    let name := Text.trim name
    if name.isEmpty then .error .missingBindName else .ok (.bind name value)

/-- The nodes of several directives. -/
def buildNodesWith (group : List Node → Node) (scope : Scope) :
    List Directive → Except BuildError (List Node)
  | [] => .ok []
  | directive :: rest =>
    (buildNodeWith group scope directive).bind fun node =>
      (buildNodesWith group scope rest).map (node :: ·)

/-- The node of a body. -/
def buildBodyWith (group : List Node → Node) (scope : Scope) (body : List Directive) :
    Except BuildError Node :=
  (buildNodesWith group scope body).map group

/-- The branches of a choice. -/
def buildBranchesWith (group : List Node → Node) (scope : Scope) :
    List (Text × List Directive) → Except BuildError (List (Text × Node))
  | [] => .ok []
  | (test, body) :: rest =>
    (buildBodyWith group scope body).bind fun node =>
      (buildBranchesWith group scope rest).map ((test, node) :: ·)

/-- The node of a body that may be missing. -/
def buildOptionWith (group : List Node → Node) (scope : Scope) :
    Option (List Directive) → Except BuildError (Option Node)
  | none => .ok none
  | some body => (buildBodyWith group scope body).map some

end

/-- Builds a template, with `group` to make one node of the nodes of a body. -/
def buildWith (group : List Node → Node) (directives : List Directive) (c : Configuration) :
    Except BuildError Template :=
  (Scope.ofConfiguration c).bind fun scope =>
    (buildNodesWith group scope directives).bind fun nodes =>
      let root := Node.mixed nodes
      match firstUnparsable? root.expressions with
      | some e => .error e
      | none => .ok { root, style := c.style, database := c.database }

/-! ## The usual grouping -/

section usual

variable (scope : Scope)

mutual

/-- Directives are built with the usual grouping. -/
theorem buildNodeWith_bodyOf : (directive : Directive) →
    buildNodeWith bodyOf scope directive = buildNode scope directive
  | .text content => by rw [buildNodeWith, buildNode]
  | .guard test body => by rw [buildNodeWith, buildNode, buildBodyWith_bodyOf body]
  | .choose branches otherwise => by
      rw [buildNodeWith, buildNode, buildBranchesWith_bodyOf branches,
        buildOptionWith_bodyOf otherwise]
  | .loop l body => by rw [buildNodeWith, buildNode, buildBodyWith_bodyOf body]
  | .trim trimming body => by rw [buildNodeWith, buildNode, buildBodyWith_bodyOf body]
  | .whereClause body => by rw [buildNodeWith, buildNode, buildBodyWith_bodyOf body]
  | .setClause body => by rw [buildNodeWith, buildNode, buildBodyWith_bodyOf body]
  | .bind name value => by rw [buildNodeWith, buildNode]

/-- Several directives are built with the usual grouping. -/
theorem buildNodesWith_bodyOf : (directives : List Directive) →
    buildNodesWith bodyOf scope directives = buildNodes scope directives
  | [] => by rw [buildNodesWith, buildNodes]
  | directive :: rest => by
      rw [buildNodesWith, buildNodes, buildNodeWith_bodyOf directive, buildNodesWith_bodyOf rest]

/-- Bodies are built with the usual grouping. -/
theorem buildBodyWith_bodyOf : (body : List Directive) →
    buildBodyWith bodyOf scope body = buildBody scope body
  | body => by rw [buildBodyWith, buildBody, buildNodesWith_bodyOf body]

/-- Branches are built with the usual grouping. -/
theorem buildBranchesWith_bodyOf : (branches : List (Text × List Directive)) →
    buildBranchesWith bodyOf scope branches = buildBranches scope branches
  | [] => by rw [buildBranchesWith, buildBranches]
  | (test, body) :: rest => by
      rw [buildBranchesWith, buildBranches, buildBodyWith_bodyOf body,
        buildBranchesWith_bodyOf rest]

/-- A body that may be missing is built with the usual grouping. -/
theorem buildOptionWith_bodyOf : (body? : Option (List Directive)) →
    buildOptionWith bodyOf scope body? = buildOption scope body?
  | none => by rw [buildOptionWith, buildOption]
  | some body => by rw [buildOptionWith, buildOption, buildBodyWith_bodyOf body]

end

end usual

/-- Templates are built with the usual grouping. -/
lemma buildWith_bodyOf (directives : List Directive) (c : Configuration) :
    buildWith bodyOf directives c = build directives c := by
  unfold buildWith build
  refine congrArg (Except.bind _) (funext fun scope => ?_)
  exact congrArg (Except.bind · _) (buildNodesWith_bodyOf scope directives)

/-! ## Alike groupings -/

/-- Whether two ways to group make alike nodes of alike ones. -/
def AlikeGrouping (group group' : List Node → Node) : Prop :=
  ∀ as bs, List.Forall₂ Node.Alike as bs → (group as).Alike (group' bs)

/-- It makes no difference whether a node on its own is put into a row. -/
lemma alikeGrouping_bodyOf : AlikeGrouping bodyOf .mixed := by
  intro as bs h
  cases h with
  | nil => exact .refl _
  | @cons a b as bs hab hrest =>
      cases hrest with
      | nil => exact hab.single
      | cons hnext hrest => exact .mixed (.cons hab (.cons hnext hrest))

section alike

variable {group group' : List Node → Node}

mutual

/-- A directive has the same error, or alike nodes. -/
theorem related_buildNode (hgroup : AlikeGrouping group group') (scope : Scope) :
    (directive : Directive) →
    ResultRel Node.Alike (buildNodeWith group scope directive)
      (buildNodeWith group' scope directive)
  | .text content => by
      rw [buildNodeWith, buildNodeWith]
      exact .ok (.refl _)
  | .guard test body => by
      rw [buildNodeWith, buildNodeWith]
      exact (related_buildBody hgroup scope body).map fun _ _ h => h.guard test
  | .choose branches otherwise => by
      rw [buildNodeWith, buildNodeWith]
      split
      · exact .error _
      · refine (related_buildBranches hgroup scope branches).bind fun _ _ hbranches => ?_
        exact (related_buildOption hgroup scope otherwise).map fun _ _ hotherwise =>
          .choose hbranches hotherwise
  | .loop l body => by
      rw [buildNodeWith, buildNodeWith]
      split
      · exact .error _
      · refine (related_buildBody hgroup scope body).bind fun a b h => ?_
        -- the aliases are checked behind the body, and alike for both
        rcases checkAlias .item l.item with e | _
        · exact .error e
        · rcases checkAlias .index l.index with e | _
          · exact .error e
          · exact .ok (h.loop l)
  | .trim trimming body => by
      rw [buildNodeWith, buildNodeWith]
      exact (related_buildBody hgroup scope body).map fun _ _ h => h.trim (trimRule trimming)
  | .whereClause body => by
      rw [buildNodeWith, buildNodeWith]
      exact (related_buildBody hgroup scope body).map fun _ _ h => h.trim .whereClause
  | .setClause body => by
      rw [buildNodeWith, buildNodeWith]
      exact (related_buildBody hgroup scope body).map fun _ _ h => h.trim .setClause
  | .bind name value => by
      rw [buildNodeWith, buildNodeWith]
      split
      · exact .error _
      · exact .ok (.refl _)

/-- **Several directives** have the same error, or alike nodes one by one. -/
theorem related_buildNodes (hgroup : AlikeGrouping group group') (scope : Scope) :
    (directives : List Directive) →
    ResultRel (List.Forall₂ Node.Alike) (buildNodesWith group scope directives)
      (buildNodesWith group' scope directives)
  | [] => by
      rw [buildNodesWith, buildNodesWith]
      exact .ok .nil
  | directive :: rest => by
      rw [buildNodesWith, buildNodesWith]
      refine (related_buildNode hgroup scope directive).bind fun _ _ hnode => ?_
      exact (related_buildNodes hgroup scope rest).map fun _ _ hothers => .cons hnode hothers

/-- A body has the same error, or alike nodes. -/
theorem related_buildBody (hgroup : AlikeGrouping group group') (scope : Scope) :
    (body : List Directive) →
    ResultRel Node.Alike (buildBodyWith group scope body) (buildBodyWith group' scope body)
  | body => by
      rw [buildBodyWith, buildBodyWith]
      exact (related_buildNodes hgroup scope body).map hgroup

/-- Branches have the same error, or alike branches one by one. -/
theorem related_buildBranches (hgroup : AlikeGrouping group group') (scope : Scope) :
    (branches : List (Text × List Directive)) →
    ResultRel (List.Forall₂ Node.AlikeBranch) (buildBranchesWith group scope branches)
      (buildBranchesWith group' scope branches)
  | [] => by
      rw [buildBranchesWith, buildBranchesWith]
      exact .ok .nil
  | (test, body) :: rest => by
      rw [buildBranchesWith, buildBranchesWith]
      refine (related_buildBody hgroup scope body).bind fun _ _ hbody => ?_
      exact (related_buildBranches hgroup scope rest).map fun _ _ hothers =>
        .cons ⟨rfl, hbody⟩ hothers

/-- A body that may be missing has the same error, or is missing, or has alike nodes. -/
theorem related_buildOption (hgroup : AlikeGrouping group group') (scope : Scope) :
    (body? : Option (List Directive)) →
    ResultRel (Option.Rel Node.Alike) (buildOptionWith group scope body?)
      (buildOptionWith group' scope body?)
  | none => by
      rw [buildOptionWith, buildOptionWith]
      exact .ok .none
  | some body => by
      rw [buildOptionWith, buildOptionWith]
      exact (related_buildBody hgroup scope body).map fun _ _ h => .some h

end

end alike

/-! ## Templates that cannot be told apart -/

/-- Whether nothing that can be asked of two templates tells them apart. -/
structure Indistinguishable (t t' : Template) : Prop where
  /-- Both may depend on the parameter, or none of them. -/
  isDynamic : t.root.isDynamic = t'.root.isDynamic
  /-- The same expressions are visited, in the same order. -/
  expressions : t.root.expressions = t'.root.expressions
  /-- A call gives the same bound SQL or the same error. -/
  apply : ∀ parameter, t.apply parameter = t'.apply parameter

/-- Templates with alike trees cannot be told apart. -/
lemma indistinguishable_of_alike {a b : Node} (h : a.Alike b) (style : MarkerStyle)
    (database : Option Text) : Indistinguishable ⟨a, style, database⟩ ⟨b, style, database⟩ where
  isDynamic := h.isDynamic
  expressions := h.expressions
  apply parameter := by
    have hrender : render ⟨a, style, database⟩ parameter =
        render ⟨b, style, database⟩ parameter := by
      let env : Env := ⟨Bindings.ofCall parameter database, 0⟩
      have hwritten := Run.written_of_discarded h.run env
      have henv := Run.env_of_discarded h.run env
      have hresult := Run.result_of_discarded h.run
        (Fragment.join (a.run env).written, (a.run env).env.bindings) env
      unfold render
      rw [hresult, hwritten, henv]
    unfold Template.apply
    rw [hrender]

/-- **Nothing tells whether single nodes were grouped.** Take the builder that puts the nodes of
every body into a row, also a node on its own, and that is the usual one in everything else. For
all directives and every configuration, both fail with the same error, or both build a template:
then the two templates may both depend on the parameter or do not, have the same expressions in the
same order, and answer every call alike. -/
theorem build_indistinguishable (directives : List Directive) (c : Configuration) :
    buildWith bodyOf directives c = build directives c ∧
      ResultRel Indistinguishable (build directives c) (buildWith .mixed directives c) := by
  refine ⟨buildWith_bodyOf directives c, ?_⟩
  rw [← buildWith_bodyOf]
  unfold buildWith
  rcases Scope.ofConfiguration c with e | scope
  · exact .error e
  · refine (related_buildNodes alikeGrouping_bodyOf scope directives).bind fun as bs h => ?_
    have halike : (Node.mixed as).Alike (.mixed bs) := .mixed h
    simp only [halike.expressions]
    rcases firstUnparsable? (Node.mixed bs).expressions with _ | e
    · exact .ok (indistinguishable_of_alike halike c.style c.database)
    · exact .error e

end DynamicSql.Template
