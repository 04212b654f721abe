import DynamicSql.Proofs.Node.Entry

/-!
# Nodes that are alike

The run of a node ends with a truth value, which says whether a test let the node contribute. A
choice asks for that value, but only of its own branches, where the test has decided it before the
body is run; a trimmed body passes on the value of the body, and nothing else looks at it. So two
nodes are *alike* if they depend on the parameter alike, list the same expressions, and have runs
that differ in that value at most. Nodes with alike parts are alike, and a node in a row of its own
is like the node itself (`Alike.single`).
-/

namespace DynamicSql

/-! ## Runs without their results -/

namespace Run

variable {α β : Type} {m m' : Run α}

/-- The run with its result left out; an error stays. -/
def discarded (m : Run α) : Run Unit := fun env =>
  let o := m env
  { o with result := o.result.map fun _ => () }

/-- What a run writes can be told without its result. -/
lemma written_of_discarded (h : m.discarded = m'.discarded) (env : Env) :
    (m env).written = (m' env).written :=
  congrArg (fun r : Run Unit => (r env).written) h

/-- The names and the counter that a run leaves can be told without its result. -/
lemma env_of_discarded (h : m.discarded = m'.discarded) (env : Env) :
    (m env).env = (m' env).env :=
  congrArg (fun r : Run Unit => (r env).env) h

/-- Whatever takes the place of the results is the same. -/
lemma result_of_discarded (h : m.discarded = m'.discarded) (b : β) (env : Env) :
    (m env).result.map (fun _ => b) = (m' env).result.map fun _ => b := by
  have hunit : (m env).result.map (fun _ => ()) = (m' env).result.map fun _ => () :=
    congrArg (fun r : Run Unit => (r env).result) h
  have hmap (r : Except EvalError α) :
      r.map (fun _ => b) = (r.map fun _ => ()).map fun _ => b := by
    cases r <;> rfl
  rw [hmap, hunit, ← hmap]

/-- What comes behind a run and does not ask for the result is the same for all results. -/
lemma bind_of_discarded (h : m.discarded = m'.discarded) (k : Run β) :
    Run.bind m (fun _ => k) = Run.bind m' fun _ => k := by
  have hunit (m : Run α) : Run.bind m (fun _ => k) = Run.bind m.discarded fun _ => k := by
    funext env
    rcases h : m env with ⟨written, env', e | a⟩ <;>
      simp only [Run.bind, discarded, h, Except.map]
  rw [hunit m, hunit m', h]

/-- A result put in the place of another is left out all the same. -/
lemma discarded_bind_pure (m : Run α) (b : β) :
    (Run.bind m fun _ => Run.pure b).discarded = m.discarded := by
  funext env
  rcases h : m env with ⟨written, env', e | a⟩
  · simp only [Run.bind, discarded, h, Except.map]
  · simp only [Run.bind, discarded, h, Run.pure, Except.map, List.append_nil]

/-- The result of a run does not matter for what is made of its fragments. -/
lemma discarded_collected (f : List Text → List Text) (m : Run α) :
    (m.collected f).discarded = m.discarded.collected f := by
  funext env
  rcases h : m env with ⟨written, env', e | a⟩ <;>
    simp only [discarded, collected, h, Except.map]

end Run

/-! ## Loops -/

namespace Loop

variable {l : Loop} {body body' : Run Bool} (h : body.discarded = body'.discarded)

include h

/-- An entry does not ask for the result of the body. -/
lemma runEntry_of_discarded (contributed : Bool) (entry : Entry) :
    l.runEntry body contributed entry = l.runEntry body' contributed entry := by
  funext env
  have hwritten := Run.written_of_discarded h (l.enter entry env)
  have henv := Run.env_of_discarded h (l.enter entry env)
  have hresult := Run.result_of_discarded h
    (contributes (l.entryFragments contributed env.counter (body' (l.enter entry env)).written))
    (l.enter entry env)
  simp only [runEntry_eq, hwritten, henv, hresult]

/-- No entry asks for the result of the body. -/
lemma runEntries_of_discarded (contributed : Bool) (entries : List Entry) :
    l.runEntries body contributed entries = l.runEntries body' contributed entries := by
  induction entries generalizing contributed with
  | nil => rfl
  | cons entry rest ih =>
      have hrest : (fun now => l.runEntries body (contributed || now) rest) =
          fun now => l.runEntries body' (contributed || now) rest := funext fun now => ih _
      unfold runEntries
      rw [runEntry_of_discarded h]
      exact congrArg (Run.bind _) hrest

/-- A loop does not ask for the result of its body. -/
lemma run_of_discarded : l.run body = l.run body' := by
  unfold run
  simp only [runEntries_of_discarded h]

end Loop

namespace Node

/-! ## Likeness -/

/-- Whether two nodes differ at most in the truth value that their runs end with. -/
structure Alike (a b : Node) : Prop where
  /-- Both may depend on the parameter, or none of them. -/
  isDynamic : a.isDynamic = b.isDynamic
  /-- They list the same expressions, in the same order. -/
  expressions : a.expressions = b.expressions
  /-- They write the same, leave the same names and counter, and fail with the same errors. -/
  run : a.run.discarded = b.run.discarded

namespace Alike

variable {a b : Node}

lemma refl (a : Node) : a.Alike a := ⟨rfl, rfl, rfl⟩

/-- A node in a row of its own is like the node. -/
theorem single (h : a.Alike b) : a.Alike (.mixed [b]) where
  isDynamic := by
    rw [h.isDynamic, Node.isDynamic, anyDynamic, anyDynamic, Bool.or_false]
  expressions := by
    rw [h.expressions, Node.expressions, listExpressions, listExpressions, List.append_nil]
  run := by
    rw [h.run, Node.run]
    exact (Run.discarded_bind_pure b.run true).symm

/-- A guard decides by its test. -/
lemma runGuard_eq (h : a.Alike b) (test : Text) : runGuard test a.run = runGuard test b.run := by
  have hbody := Run.bind_of_discarded h.run (Run.pure true)
  unfold runGuard
  refine congrArg (Run.bind _) (funext fun holds => ?_)
  cases holds with
  | true => exact hbody
  | false => rfl

/-- Guards with alike bodies are alike. -/
lemma guard (h : a.Alike b) (test : Text) : (Node.guard test a).Alike (.guard test b) where
  isDynamic := rfl
  expressions := by rw [Node.expressions, Node.expressions, h.expressions]
  run := by rw [Node.run, Node.run, h.runGuard_eq]

/-- Loops with alike bodies are alike. -/
lemma loop (h : a.Alike b) (l : Loop) : (Node.loop l a).Alike (.loop l b) where
  isDynamic := rfl
  expressions := by rw [Node.expressions, Node.expressions, h.expressions]
  run := by rw [Node.run, Node.run, Loop.run_of_discarded h.run]

/-- Trimmed bodies that are alike stay alike. This is the one node that passes on the truth value
of a part. -/
lemma trim (h : a.Alike b) (rule : TrimRule) : (Node.trim rule a).Alike (.trim rule b) where
  isDynamic := rfl
  expressions := by rw [Node.expressions, Node.expressions, h.expressions]
  run := by
    rw [Node.run, Node.run, runTrim, runTrim, Run.discarded_collected, Run.discarded_collected,
      h.run]

/-- Rows of alike nodes are alike. -/
theorem mixed {as bs : List Node} (h : List.Forall₂ Alike as bs) :
    (Node.mixed as).Alike (.mixed bs) := by
  have hall : anyDynamic as = anyDynamic bs ∧ listExpressions as = listExpressions bs ∧
      runAll as = runAll bs := by
    induction h with
    | nil => exact ⟨rfl, rfl, rfl⟩
    | cons hchild _ ih =>
        obtain ⟨hdynamic, hexpressions, hrun⟩ := ih
        refine ⟨?_, ?_, ?_⟩
        · rw [anyDynamic, anyDynamic, hchild.isDynamic, hdynamic]
        · rw [listExpressions, listExpressions, hchild.expressions, hexpressions]
        · rw [runAll, runAll, hrun, Run.bind_of_discarded hchild.run]
  obtain ⟨hdynamic, hexpressions, hrun⟩ := hall
  constructor
  · rw [Node.isDynamic, Node.isDynamic, hdynamic]
  · rw [Node.expressions, Node.expressions, hexpressions]
  · rw [Node.run, Node.run, hrun]

end Alike

/-- Whether two branches have the same test and alike bodies. -/
def AlikeBranch (x y : Text × Node) : Prop := x.1 = y.1 ∧ x.2.Alike y.2

namespace Alike

/-- What stands for no branch is told from its node without the truth value of the node. -/
lemma runOption_eq {a? b? : Option Node} (h : Option.Rel Alike a? b?) :
    runOption a? = runOption b? := by
  cases h with
  | none => rfl
  | some h => rw [runOption, runOption, Run.bind_of_discarded h.run]

/-- A choice among alike branches takes the same one. -/
lemma runBranches_eq {as bs : List (Text × Node)} (h : List.Forall₂ AlikeBranch as bs)
    (otherwise : Run Bool) : runBranches as otherwise = runBranches bs otherwise := by
  induction h with
  | nil => rfl
  | @cons x y _ _ hbranch _ ih =>
      obtain ⟨test, a⟩ := x
      obtain ⟨_, b⟩ := y
      obtain ⟨rfl, hbody⟩ := hbranch
      rw [runBranches, runBranches, hbody.runGuard_eq, ih]

/-- Choices among alike branches are alike. -/
theorem choose {as bs : List (Text × Node)} {a? b? : Option Node}
    (h : List.Forall₂ AlikeBranch as bs) (h? : Option.Rel Alike a? b?) :
    (Node.choose as a?).Alike (.choose bs b?) where
  isDynamic := rfl
  expressions := by
    have hbranches : branchExpressions as = branchExpressions bs := by
      induction h with
      | nil => rfl
      | @cons x y _ _ hbranch _ ih =>
          obtain ⟨test, a⟩ := x
          obtain ⟨_, b⟩ := y
          obtain ⟨rfl, hbody⟩ := hbranch
          rw [branchExpressions, branchExpressions, hbody.expressions, ih]
    have hoption : optionExpressions a? = optionExpressions b? := by
      cases h? with
      | none => rfl
      | some h => rw [optionExpressions, optionExpressions, h.expressions]
    rw [Node.expressions, Node.expressions, hbranches, hoption]
  run := by
    rw [Node.run, Node.run, runOption_eq h?, runBranches_eq h]

end Alike

end Node

end DynamicSql
