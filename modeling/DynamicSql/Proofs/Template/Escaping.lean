import DynamicSql.Proofs.Delimited.Escaping
import DynamicSql.Proofs.Template.Checking
import DynamicSql.Proofs.Template.Expansion

/-!
# Escaped substitutions in templates

The text of a directive is read twice: when the template is built, to fill in the properties, and
when it is run, to evaluate what is left. The first time, the backslash before an opening is
dropped. So a text in which every opening was escaped is built into a node with the text as it was
before (`build_escape`), and what looks like a substitution in there is one: it is parsed when the
template is built, and evaluated when it is applied (`escaped_substitutions`). The text itself comes
out if it has no complete token.
-/

namespace DynamicSql

open Delimiters

/-- A text without placeholders is assembled as what is left of it when it is read. -/
lemma BoundSql.assemble_of_literal {sql s : Text}
    (h : placeholder.division sql = Division.literal s) (b : Bindings) (style : MarkerStyle) :
    assemble sql b style =
      .ok { sql := s, placeholders := [], parameters := [], additional := b } := by
  have htokens : placeholder.tokens sql = [] := by
    rw [← contents_division, h]
    rfl
  rw [assemble_eq, htokens, h]
  simp only [List.mapM_nil, pure, Except.pure, Except.map, Division.literal, Division.fill_mk_nil,
    List.map_nil]

namespace Template

/-! ## Building -/

/-- Filling in properties gives a text back in which openings were escaped. -/
lemma substitute_escape (p : Properties) (s : Text) :
    p.substitute (Text.escape substitution.opening s) = s :=
  @replaceAll_escape '$' (by decide) (by decide) p.resolve s

/-- What a text without filter is as a template. -/
def ofText (c : Configuration) (s : Text) : Template where
  root := .mixed [.text s none]
  style := c.style
  database := c.database

/-- **Building drops the backslashes.** -/
lemma build_escape {c : Configuration} (hfilter : c.filter = none) (s : Text) :
    build [.text (Text.escape substitution.opening s)] c =
      match firstUnparsable? (substitution.tokens s) with
      | some e => .error e
      | none => .ok (ofText c s) := by
  have hscope : Scope.ofConfiguration c = .ok ⟨c.properties, none⟩ := by
    rw [Scope.ofConfiguration, hfilter]
  have hnodes : buildNodes ⟨c.properties, none⟩ [.text (Text.escape substitution.opening s)] =
      .ok [.text s none] := by
    simp only [buildNodes, buildNode, substitute_escape]
    rfl
  rw [build_of_nodes hscope hnodes]
  simp only [Node.expressions, Node.listExpressions, List.append_nil]
  cases firstUnparsable? (substitution.tokens s) <;> rfl

/-! ## Applying -/

section ofText

variable (c : Configuration) {s : Text} (parameter : Value)

/-- Text without substitutions and placeholders comes out as it is. -/
lemma apply_ofText_of_static (hstatic : substitution.tokens s = [])
    (hplain : Text.cut? placeholder.opening s = none) :
    (ofText c s).apply parameter = .ok
      { sql := s, placeholders := [], parameters := []
        additional := Bindings.ofCall parameter c.database } := by
  have htext : Node.isDynamicText s = false := by
    rw [Node.isDynamicText, hasToken, hstatic]
    rfl
  have hrun : (ofText c s).root.run ⟨Bindings.ofCall parameter c.database, 0⟩ =
      ⟨[s], ⟨Bindings.ofCall parameter c.database, 0⟩, .ok true⟩ := by
    simp only [ofText, Node.run, Node.runAll, Node.runText_of_static htext, Run.bind, Run.pure,
      List.append_nil]
  rw [apply_of_run hrun, Fragment.join_singleton,
    BoundSql.assemble_of_literal (division_of_none hplain)]

/-- Substitutions are evaluated, with a scalar parameter under its name. -/
lemma render_ofText_of_dynamic (hdynamic : substitution.tokens s ≠ []) :
    (ofText c s).render parameter =
      (Node.spliced (Node.bindScalar (Bindings.ofCall parameter c.database)) none s).map fun sql =>
        (sql, Node.bindScalar (Bindings.ofCall parameter c.database)) := by
  have htext : Node.isDynamicText s = true := by
    rw [Node.isDynamicText, hasToken, Bool.not_eq_true', List.isEmpty_eq_false_iff]
    exact hdynamic
  simp only [render, ofText, Node.run, Node.runAll, Node.runText, htext, if_true, bind, Run.bind,
    Run.modifyBindings, Run.ofBindings]
  rcases Node.spliced (Node.bindScalar (Bindings.ofCall parameter c.database)) none s with e | sql
  · rfl
  · simp only [Run.write, pure, Run.pure, Except.map, List.nil_append, List.append_nil,
      Fragment.join_singleton]

end ofText

/-- **Escaped substitutions are substitutions.** A text with a backslash before every opening is
built, if no filter is set, as the text without the backslashes: every complete token in it is
parsed as an expression, whatever the properties are. If there is none, the text comes out of every
call as it is, unless it has placeholders. Otherwise the tokens are evaluated. -/
theorem escaped_substitutions {c : Configuration} (hfilter : c.filter = none) (s : Text) :
    (build [.text (Text.escape substitution.opening s)] c =
      match firstUnparsable? (substitution.tokens s) with
      | some e => .error e
      | none => .ok (ofText c s)) ∧
    (substitution.tokens s = [] →
      build [.text (Text.escape substitution.opening s)] c = .ok (ofText c s) ∧
        (Text.cut? placeholder.opening s = none → ∀ parameter,
          (ofText c s).apply parameter = .ok
            { sql := s, placeholders := [], parameters := []
              additional := Bindings.ofCall parameter c.database })) ∧
    (substitution.tokens s ≠ [] → ∀ parameter,
      (ofText c s).render parameter =
        (Node.spliced (Node.bindScalar (Bindings.ofCall parameter c.database)) none s).map
          fun sql => (sql, Node.bindScalar (Bindings.ofCall parameter c.database))) := by
  have hbuild := build_escape hfilter s
  refine ⟨hbuild, fun hstatic => ⟨?_, fun hplain parameter => ?_⟩, fun hdynamic parameter => ?_⟩
  · rw [hbuild, hstatic]
    rfl
  · exact apply_ofText_of_static c parameter hstatic hplain
  · exact render_ofText_of_dynamic c parameter hdynamic

/-- A price in dollars, and a token that does not end. -/
theorem escaped_substitutions_open :
    let c : Configuration := {}
    let s : Text := "SELECT '$5', '$\x7b'".toList
    c.filter = none ∧ build [.text "SELECT '$5', '\\$\x7b'".toList] c = .ok (ofText c s) ∧
      ∃ r, (ofText c s).apply (.string "x".toList) = .ok r ∧ r.sql = s ∧ r.parameters = [] := by
  intro c s
  have hescape : Text.escape substitution.opening s = "SELECT '$5', '\\$\x7b'".toList := by
    decide +kernel
  obtain ⟨-, hstatic, -⟩ := @escaped_substitutions c rfl s
  rw [hescape] at hstatic
  obtain ⟨hbuild, happly⟩ := hstatic (by decide +kernel)
  exact ⟨rfl, hbuild, _, happly (by decide +kernel) _, rfl, rfl⟩

/-- An escaped substitution does not stay as it is: it is replaced by a field of the parameter. -/
theorem not_literal_of_escaped :
    ¬ ∀ (s : Text) (c : Configuration) (parameter : Value),
      Text.cut? placeholder.opening s = none → c.filter = none →
        ∃ t r, build [.text (Text.escape substitution.opening s)] c = .ok t ∧
          t.apply parameter = .ok r ∧ r.sql = s ∧ r.parameters = [] := by
  intro h
  let s : Text := "$\x7ba\x7d".toList
  let c : Configuration := {}
  let parameter : Value := .object [("a".toList, .string "x".toList)]
  let b := Node.bindScalar (Bindings.ofCall parameter c.database)
  obtain ⟨t, r, hbuild, happly, hsql, -⟩ := h s c parameter (by decide) rfl
  have htokens : substitution.tokens s = ["a".toList] := by decide +kernel
  have hdivision : substitution.division s = ⟨[], [("a".toList, [])]⟩ := by decide +kernel
  have hparse : Expr.parse "a".toList = .ok (.ref "a".toList) := Path.parse_name (by decide)
  have hparsed : firstUnparsable? (substitution.tokens s) = none := by
    rw [htokens, firstUnparsable?_eq_none_iff, List.forall_mem_singleton]
    exact ⟨_, hparse⟩
  have hspliced : Node.spliced b none s = .ok "x".toList := by
    have heval : b.eval "a".toList = .ok (.string "x".toList) := by
      rw [Bindings.eval, hparse]
      rfl
    rw [Node.spliced, scan_eq, htokens, hdivision]
    simp only [List.mapM_cons, List.mapM_nil, Node.substitutionText, heval]
    rfl
  have hrender : (ofText c s).render parameter = .ok ("x".toList, b) := by
    rw [render_ofText_of_dynamic c parameter (htokens ▸ List.cons_ne_nil _ _)]
    change (Node.spliced b none s).map _ = _
    rw [hspliced]
    rfl
  rw [build_escape rfl, hparsed] at hbuild
  obtain rfl := Except.ok.inj hbuild
  have hplain : Text.cut? placeholder.opening "x".toList = none := by decide
  rw [apply, hrender] at happly
  have hx := happly.symm.trans (BoundSql.assemble_of_literal (division_of_none hplain) b _)
  rw [Except.ok.inj hx] at hsql
  exact absurd hsql (by decide)

end Template

end DynamicSql
