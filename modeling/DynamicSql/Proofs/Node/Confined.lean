import DynamicSql.Proofs.Delimited.Division
import DynamicSql.Proofs.Eval.Parsed
import DynamicSql.Proofs.Node.Engine
import DynamicSql.Proofs.Results

/-!
# What a node evaluates

A computation is confined to some expressions if it has no others evaluated: engines that agree on
those are the same to it, and an error that a text is no expression came from one of them. Every
node is confined to the expressions that it lists (`confined_runWith`).
-/

namespace DynamicSql

variable {α β : Type}

/-- Whether two engines agree on the values of some expressions, and on all matches. -/
structure Engine.AgreeOn (expressions : List Text) (g g' : Engine) : Prop where
  /-- The expressions have the same values. -/
  eval : ∀ b, ∀ e ∈ expressions, g.eval b e = g'.eval b e
  /-- Patterns have the same matches. -/
  find? : g.find? = g'.find?

/-- Whether the text of one of some expressions is what an engine cannot parse. -/
def Engine.Refuses (g : Engine) (expressions : List Text) (e : Text) (cause : ParseError) : Prop :=
  ∃ b, ∃ e' ∈ expressions, g.eval b e' = .error (.unparsable e cause)

/-- A result from bindings that is confined to some expressions. -/
structure Consults (expressions : List Text) (f : Engine → Bindings → Except EvalError α) :
    Prop where
  /-- Nothing else is evaluated. -/
  agree : ∀ g g', g.AgreeOn expressions g' → f g = f g'
  /-- What cannot be parsed is among the expressions. -/
  refused : ∀ g b e cause, f g b = .error (.unparsable e cause) → g.Refuses expressions e cause

/-- A run that is confined to some expressions. -/
structure Confined (expressions : List Text) (m : Engine → Run α) : Prop where
  /-- Nothing else is evaluated. -/
  agree : ∀ g g', g.AgreeOn expressions g' → m g = m g'
  /-- What cannot be parsed is among the expressions. -/
  refused : ∀ g env e cause, (m g env).result = .error (.unparsable e cause) →
    g.Refuses expressions e cause

/-! ## Runs -/

/-- The result of two runs in a row. -/
lemma Run.result_bind (m : Run α) (f : α → Run β) (env : Env) :
    (Run.bind m f env).result = (m env).result.bind fun a => (f a (m env).env).result := by
  rcases h : m env with ⟨written, env', e | a⟩ <;> simp only [Run.bind, h] <;> rfl

namespace Confined

variable {expressions : List Text} {m : Engine → Run α}

/-- A run that is confined is confined to more expressions. -/
lemma mono {others : List Text} (h : Confined expressions m) (hsub : expressions ⊆ others) :
    Confined others m where
  agree g g' hg := h.agree g g' ⟨fun b e he => hg.eval b e (hsub he), hg.find?⟩
  refused g env e cause hr := by
    obtain ⟨b, e', he', heval⟩ := h.refused g env e cause hr
    exact ⟨b, e', hsub he', heval⟩

/-- A run that uses no engine and never fails is confined to nothing. -/
lemma of_ok {m : Run α} (h : ∀ env, ∃ a, (m env).result = .ok a) :
    Confined expressions fun _ => m where
  agree _ _ _ := rfl
  refused _ env _ _ hr := by
    obtain ⟨a, ha⟩ := h env
    rw [ha] at hr
    cases hr

lemma pure (a : α) : Confined expressions fun _ => Run.pure a := of_ok fun _ => ⟨a, rfl⟩

lemma write (fragment : Text) : Confined expressions fun _ => Run.write fragment :=
  of_ok fun _ => ⟨(), rfl⟩

lemma writeSome (fragment? : Option Text) :
    Confined expressions fun _ => Run.writeSome fragment? := by
  cases fragment? <;> exact of_ok fun _ => ⟨(), rfl⟩

lemma modifyBindings (f : Bindings → Bindings) :
    Confined expressions fun _ => Run.modifyBindings f := of_ok fun _ => ⟨(), rfl⟩

lemma unbindSome (name? : Option Text) : Confined expressions fun _ => Run.unbindSome name? := by
  cases name? <;> exact of_ok fun _ => ⟨(), rfl⟩

lemma bindAlias (name? : Option Text) (id : Nat) (v : Value) :
    Confined expressions fun _ => Loop.bindAlias name? id v := by
  cases name? <;> exact of_ok fun _ => ⟨(), rfl⟩

/-- Two runs in a row are confined if both are. -/
lemma bind {f : Engine → α → Run β} (hm : Confined expressions m)
    (hf : ∀ a, Confined expressions fun g => f g a) :
    Confined expressions fun g => Run.bind (m g) (f g) where
  agree g g' hg := by
    have hf' : f g = f g' := funext fun a => (hf a).agree g g' hg
    rw [hm.agree g g' hg, hf']
  refused g env e cause hr := by
    rw [Run.result_bind] at hr
    obtain hr | ⟨a, -, hr⟩ := bind_eq_error_iff.1 hr
    · exact hm.refused g env e cause hr
    · exact (hf a).refused g (m g env).env e cause hr

/-- A result from bindings is a run. -/
lemma ofBindings {f : Engine → Bindings → Except EvalError α} (h : Consults expressions f) :
    Confined expressions fun g => Run.ofBindings (f g) where
  agree g g' hg := by rw [h.agree g g' hg]
  refused g env := h.refused g env.bindings

/-- Changing what is written evaluates nothing. -/
lemma mapWritten (f : List Text → List Text) (h : Confined expressions m) :
    Confined expressions fun g => (m g).mapWritten f where
  agree g g' hg := by rw [h.agree g g' hg]
  refused g env := h.refused g env

/-- Collecting what is written evaluates nothing. -/
lemma collected (f : List Text → List Text) (h : Confined expressions m) :
    Confined expressions fun g => (m g).collected f where
  agree g g' hg := by rw [h.agree g g' hg]
  refused g env e cause hr := by
    refine h.refused g env e cause ?_
    rcases hm : (m g env).result with e' | a
    · simpa only [Run.collected, hm] using hr
    · simp only [Run.collected, hm, reduceCtorEq] at hr

/-- Looking at what is written evaluates nothing. -/
lemma listened (h : Confined expressions m) :
    Confined expressions fun g => (m g).listened where
  agree g g' hg := by rw [h.agree g g' hg]
  refused g env e cause hr := h.refused g env e cause (map_eq_error_iff.1 hr)

end Confined

/-! ## Evaluation -/

namespace Consults

/-- The value of an expression consults that expression. -/
lemma eval (expression : Text) : Consults [expression] fun g b => g.eval b expression where
  agree _ _ hg := funext fun b => hg.eval b expression (List.mem_singleton_self _)
  refused _ b _ _ hr := ⟨b, expression, List.mem_singleton_self _, hr⟩

/-- What is made of a value consults what the value consults. -/
lemma bind {expressions : List Text} {f : Engine → Bindings → Except EvalError α}
    {k : α → Except EvalError β} (hf : Consults expressions f) (hk : ∀ a, Parsed (k a)) :
    Consults expressions fun g b => (f g b).bind k where
  agree g g' hg := by rw [hf.agree g g' hg]
  refused g b e cause hr := by
    obtain hr | ⟨a, -, hr⟩ := bind_eq_error_iff.1 hr
    · exact hf.refused g b e cause hr
    · exact absurd hr (hk a e cause)

/-- A value that is changed consults what it consults. -/
lemma map {expressions : List Text} {f : Engine → Bindings → Except EvalError α} (k : α → β)
    (hf : Consults expressions f) : Consults expressions fun g b => (f g b).map k where
  agree g g' hg := by rw [hf.agree g g' hg]
  refused g b e cause hr := hf.refused g b e cause (map_eq_error_iff.1 hr)

/-- A condition consults its expression. -/
lemma truth (expression : Text) : Consults [expression] fun g b => g.truth b expression :=
  (eval expression).map Value.truthy

/-- A collection consults its expression. -/
lemma entries (expression : Text) : Consults [expression] fun g b => g.entries b expression :=
  (eval expression).bind fun v => by cases v <;> exact nofun

/-- A filter refuses a value, not a text. -/
lemma parsed_filtered (g : Engine) (filter : Option Pattern) (value : Text) :
    Parsed (g.filtered filter value) := by
  unfold Engine.filtered
  split
  · exact nofun
  · split <;> exact nofun

/-- Text consults the expressions of its substitutions. -/
lemma spliced (filter : Option Pattern) (content : Text) :
    Consults (Delimiters.substitution.tokens content) fun g b => g.spliced b filter content where
  agree g g' hg := by
    funext b
    rw [Engine.spliced, Engine.spliced, Delimiters.scan_eq, Delimiters.scan_eq]
    refine congrArg _ (mapM_congr fun e he => ?_)
    have hfiltered : g.filtered filter = g'.filtered filter := by
      funext value
      unfold Engine.filtered
      rw [hg.find?]
    rw [Engine.substitutionText, Engine.substitutionText, hg.eval b e he, hfiltered]
  refused g b e cause hr := by
    rw [Engine.spliced, Delimiters.scan_eq, map_eq_error_iff] at hr
    obtain ⟨before, e', after, htokens, -, herror⟩ := mapM_eq_error_iff.1 hr
    refine ⟨b, e', by simp [htokens], ?_⟩
    rw [Engine.substitutionText] at herror
    obtain herror | ⟨v, -, herror⟩ := bind_eq_error_iff.1 herror
    · exact herror
    · exact absurd herror (parsed_filtered g filter v.toSql e cause)

end Consults

/-! ## Nodes -/

namespace Node

variable {expressions : List Text}

/-- Text is confined to its substitutions. -/
lemma confined_textWith (content : Text) (filter : Option Pattern) :
    Confined (Delimiters.substitution.tokens content) fun g => textWith g content filter := by
  unfold textWith
  split
  · exact (Confined.modifyBindings bindScalar).bind fun _ =>
      (Confined.ofBindings (Consults.spliced filter content)).bind fun sql =>
        (Confined.write sql).bind fun _ => Confined.pure true
  · exact (Confined.write content).bind fun _ => Confined.pure true

/-- A guarded body is confined to its test and what the body is confined to. -/
lemma confined_guardWith (test : Text) {body : Engine → Run Bool}
    (hbody : Confined expressions body) :
    Confined (test :: expressions) fun g => guardWith g test (body g) := by
  have htest : Confined (test :: expressions) fun g => Run.ofBindings (g.truth · test) :=
    (Confined.ofBindings (Consults.truth test)).mono (by simp)
  refine htest.bind fun holds => ?_
  cases holds with
  | true => exact (hbody.mono (List.subset_cons_self _ _)).bind fun _ => Confined.pure true
  | false => exact Confined.pure false

/-- A binding is confined to its value. -/
lemma confined_bindWith (name value : Text) :
    Confined [value] fun g => bindWith g name value :=
  (Confined.ofBindings (Consults.eval value)).bind fun v =>
    (Confined.modifyBindings (·.insert name v)).bind fun _ => Confined.pure true

/-- One entry of a loop is confined to what the body is confined to. -/
lemma confined_runEntry (l : Loop) {body : Engine → Run Bool} (hbody : Confined expressions body)
    (contributed : Bool) (entry : Entry) :
    Confined expressions fun g => l.runEntry (body g) contributed entry := by
  have hid : Confined expressions fun _ => Run.nextId := Confined.of_ok fun env => ⟨_, rfl⟩
  unfold Loop.runEntry
  refine hid.bind fun id => ?_
  refine (Confined.bindAlias l.index id entry.index).bind fun _ => ?_
  refine (Confined.bindAlias l.item id entry.item).bind fun _ => ?_
  exact (hbody.mapWritten (l.entryFragments contributed id)).listened.bind fun written =>
    Confined.pure (Loop.contributes written.2)

/-- The entries of a loop are confined to what the body is confined to. -/
lemma confined_runEntries (l : Loop) {body : Engine → Run Bool}
    (hbody : Confined expressions body) (contributed : Bool) (entries : List Entry) :
    Confined expressions fun g => l.runEntries (body g) contributed entries := by
  induction entries generalizing contributed with
  | nil => exact Confined.pure ()
  | cons entry rest ih =>
      exact (confined_runEntry l hbody contributed entry).bind fun now => ih (contributed || now)

/-- A loop is confined to its collection and what the body is confined to. -/
lemma confined_loopWith (l : Loop) {body : Engine → Run Bool}
    (hbody : Confined expressions body) :
    Confined (l.collection :: expressions) fun g => loopWith g l (body g) := by
  have hcollection : Confined (l.collection :: expressions) fun g =>
      Run.ofBindings (g.entries · l.collection) :=
    (Confined.ofBindings (Consults.entries l.collection)).mono (by simp)
  refine hcollection.bind fun entries => ?_
  have hentries := (confined_runEntries l hbody false entries).mono
    (List.subset_cons_self l.collection _)
  cases entries with
  | nil => exact Confined.pure true
  | cons entry rest =>
      exact (Confined.writeSome l.opening).bind fun _ => hentries.bind fun _ =>
        (Confined.writeSome l.closing).bind fun _ => (Confined.unbindSome l.item).bind fun _ =>
          (Confined.unbindSome l.index).bind fun _ => Confined.pure true

mutual

/-- **A node evaluates the expressions that it lists**, and no others. -/
theorem confined_runWith : (node : Node) → Confined node.expressions fun g => node.runWith g
  | text content filter => by
      simp only [expressions, runWith]
      exact confined_textWith content filter
  | guard test body => by
      simp only [expressions, runWith]
      exact confined_guardWith test (confined_runWith body)
  | choose branches otherwise => by
      simp only [expressions, runWith]
      exact confined_branchesWith branches (List.subset_append_left _ _)
        ((confined_optionWith otherwise).mono (List.subset_append_right _ _))
  | loop l body => by
      simp only [expressions, runWith]
      exact confined_loopWith l (confined_runWith body)
  | trim rule body => by
      simp only [expressions, runWith]
      exact (confined_runWith body).collected _
  | bind name value => by
      simp only [expressions, runWith]
      exact confined_bindWith name value
  | mixed children => by
      simp only [expressions, runWith]
      exact confined_allWith children

/-- Several nodes evaluate the expressions that they list. -/
theorem confined_allWith : (children : List Node) →
    Confined (listExpressions children) fun g => allWith g children
  | [] => Confined.pure true
  | child :: rest => by
      simp only [listExpressions, allWith]
      exact ((confined_runWith child).mono (List.subset_append_left _ _)).bind fun _ =>
        (confined_allWith rest).mono (List.subset_append_right _ _)

/-- Branches evaluate their tests and the expressions of their bodies. -/
theorem confined_branchesWith {expressions : List Text} {otherwise : Engine → Run Bool} :
    (branches : List (Text × Node)) → branchExpressions branches ⊆ expressions →
    Confined expressions otherwise →
    Confined expressions fun g => branchesWith g branches (otherwise g)
  | [], _, hotherwise => hotherwise
  | (test, body) :: rest, hsub, hotherwise => by
      simp only [branchesWith]
      rw [branchExpressions, List.append_subset] at hsub
      refine ((confined_guardWith test (confined_runWith body)).mono hsub.1).bind fun taken => ?_
      cases taken with
      | true => exact Confined.pure true
      | false => exact confined_branchesWith rest hsub.2 hotherwise

/-- An optional node evaluates the expressions that it lists. -/
theorem confined_optionWith : (node? : Option Node) →
    Confined (optionExpressions node?) fun g => optionWith g node?
  | none => Confined.pure false
  | some node => by
      simp only [optionExpressions, optionWith]
      exact (confined_runWith node).bind fun _ => Confined.pure true

end

/-- **A run fails on the text of an expression only if the node lists it.** -/
theorem mem_expressions_of_unparsable {node : Node} {env : Env} {e : Text} {cause : ParseError}
    (h : (node.run env).result = .error (.unparsable e cause)) :
    ∃ e' ∈ node.expressions, ∀ x, Expr.parse e' ≠ .ok x := by
  rw [← runWith_standard] at h
  obtain ⟨b, e', he', heval⟩ := (confined_runWith node).refused _ env e cause h
  exact ⟨e', he', fun x hx => b.eval_parsed hx e cause heval⟩

end Node

end DynamicSql
