import DynamicSql.Proofs.Assembly
import DynamicSql.Proofs.Node.Context
import DynamicSql.Template

/-!
# Static nodes

A node that is not dynamic writes the same fragments whatever the bindings are, and changes
nothing. So two calls of a template that is not dynamic can differ in the values they bind, and in
whether there are values for all placeholders, but not in the text.

* `run_of_isDynamic_eq_false`: what a static node does.
* `runAll_guards`: what static texts behind tests do.
* `static_sound`: the same in contexts, and what follows for templates.
-/

namespace DynamicSql

namespace Node

/-- Static text is written as it is. -/
lemma runText_of_static {content : Text} (h : isDynamicText content = false)
    (filter : Option Pattern) (env : Env) :
    runText content filter env = ⟨[content], env, .ok true⟩ := by
  rw [runText, h]
  rfl

mutual

/-- A static node writes the same in every environment, which it leaves as it is. -/
theorem run_of_isDynamic_eq_false : (node : Node) → node.isDynamic = false →
    ∃ fragments, ∀ env, node.run env = ⟨fragments, env, .ok true⟩
  | text content filter, h => by
      have hstatic : isDynamicText content = false := h
      refine ⟨[content], fun env => ?_⟩
      rw [run, runText_of_static hstatic]
  | mixed children, h => by
      rw [isDynamic] at h
      simpa only [run] using runAll_of_anyDynamic_eq_false children h
  | guard _ _, h | choose _ _, h | loop _ _, h | trim _ _, h | bind _ _, h => by
      rw [isDynamic] at h
      · cases h
      all_goals nofun

/-- Static nodes in a row write the same in every environment. -/
theorem runAll_of_anyDynamic_eq_false : (children : List Node) → anyDynamic children = false →
    ∃ fragments, ∀ env, runAll children env = ⟨fragments, env, .ok true⟩
  | [], _ => ⟨[], fun _ => rfl⟩
  | child :: rest, h => by
      rw [anyDynamic, Bool.or_eq_false_iff] at h
      obtain ⟨first, hfirst⟩ := run_of_isDynamic_eq_false child h.1
      obtain ⟨others, hothers⟩ := runAll_of_anyDynamic_eq_false rest h.2
      refine ⟨first ++ others, fun env => ?_⟩
      simp only [runAll, Run.bind, hfirst, hothers]

end

end Node

/-! ## Static text behind tests -/

/-- Whether a test is true; one without a truth value is not. -/
def Bindings.holds (b : Bindings) (test : Text) : Bool :=
  match b.evalTruth test with
  | .ok truth => truth
  | .error _ => false

namespace Node

/-- Static text behind a test is written if the test is true. -/
lemma run_guard_of_static {test content : Text} {env : Env}
    (hstatic : isDynamicText content = false) (h : (env.bindings.evalTruth test).isOk = true) :
    (guard test (plain content)).run env = ⟨if env.bindings.holds test then [content] else [], env,
      .ok (env.bindings.holds test)⟩ := by
  have htext (env : Env) : (plain content).run env = ⟨[content], env, .ok true⟩ := by
    rw [plain, run, runText_of_static hstatic]
  rw [run, runGuard]
  unfold Bindings.holds
  rcases htest : env.bindings.evalTruth test with e | truth
  · rw [htest] at h
    cases h
  · cases truth <;> simp [Bind.bind, Run.bind, Run.ofBindings, Pure.pure, Run.pure, htest, htext]

/-- **Static texts behind tests** write those texts whose tests are true, in order, and change
nothing. -/
theorem runAll_guards {ι : Type} {test content : ι → Text}
    (hstatic : ∀ part, isDynamicText (content part) = false) {parts : List ι} {env : Env}
    (h : ∀ part ∈ parts, (env.bindings.evalTruth (test part)).isOk = true) :
    runAll (parts.map fun part => guard (test part) (plain (content part))) env =
      ⟨(parts.filter fun part => env.bindings.holds (test part)).map content, env, .ok true⟩ := by
  induction parts with
  | nil => rfl
  | cons part rest ih =>
      rw [List.forall_mem_cons] at h
      rw [List.map_cons, runAll, List.filter_cons]
      simp only [Run.bind, run_guard_of_static (hstatic part) h.1, ih h.2]
      cases env.bindings.holds (test part) <;> rfl

end Node

namespace Template

/-- A static template has one text for all parameters. -/
theorem render_of_isDynamic_eq_false {t : Template} (h : t.root.isDynamic = false) :
    ∃ text, ∀ parameter,
      t.render parameter = .ok (text, Bindings.ofCall parameter t.database) := by
  obtain ⟨fragments, hrun⟩ := Node.run_of_isDynamic_eq_false t.root h
  refine ⟨Fragment.join fragments, fun parameter => ?_⟩
  simp only [render, hrun, Except.map]

/-- **What is not dynamic does not depend on the parameter.** A static node succeeds in every
context, joins the same text to what is there, and leaves the bindings and the counter as they
are. Two calls of a static template that succeed have the same text and the same placeholders. -/
theorem static_sound :
    (∀ node : Node, node.isDynamic = false → ∃ text, ∀ (s : Text) (env : Env),
      node.runIn Fragment.append (s, env) = (.ok true, (Fragment.append s text, env))) ∧
    (∀ (t : Template) (p q : Value) (r r' : BoundSql), t.root.isDynamic = false →
      t.apply p = .ok r → t.apply q = .ok r' →
        r.sql = r'.sql ∧ r.placeholders = r'.placeholders) := by
  constructor
  · intro node h
    obtain ⟨fragments, hrun⟩ := Node.run_of_isDynamic_eq_false node h
    refine ⟨Fragment.join fragments, fun s env => ?_⟩
    rw [Node.runIn_eq, Run.into, hrun, ← Fragment.appendAll_eq_append_join]
    rfl
  · intro t p q r r' h hp hq
    obtain ⟨text, hrender⟩ := render_of_isDynamic_eq_false h
    rw [apply, hrender] at hp hq
    exact BoundSql.assemble_independent _ t.style hp hq

/-- A query with two placeholders, called with a number and with a string. -/
theorem static_sound_query :
    let query : Template :=
      { root := .mixed [.plain "SELECT id FROM t".toList,
          .plain "WHERE a = #\x7ba\x7d AND b > #\x7bb,jdbcType=INTEGER\x7d".toList]
        style := .dollar
        database := none }
    query.root.isDynamic = false ∧
      ∃ r r', query.apply (.integer 7) = .ok r ∧ query.apply (.string "x".toList) = .ok r' ∧
        r.sql = r'.sql ∧ r.placeholders = r'.placeholders := by
  intro query
  have hstatic : query.root.isDynamic = false := by decide +kernel
  have hok (v : Value) (hv : (query.apply v).isOk = true) : ∃ r, query.apply v = .ok r := by
    rcases h : query.apply v with e | r
    · rw [h] at hv
      cases hv
    · exact ⟨r, rfl⟩
  obtain ⟨r, hr⟩ := hok (.integer 7) (by decide +kernel)
  obtain ⟨r', hr'⟩ := hok (.string "x".toList) (by decide +kernel)
  exact ⟨hstatic, r, r', hr, hr', static_sound.2 query _ _ r r' hstatic hr hr'⟩

end Template

end DynamicSql
