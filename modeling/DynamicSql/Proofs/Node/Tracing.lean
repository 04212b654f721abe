import DynamicSql.Node
import Mathlib.Tactic.Lemma

/-!
# Iterations of a run

A traced run does what a run does, and tells in addition which iterations of loops it starts: for
each of them the loop, the entry and the id that was drawn, in the order in which they are started.
An iteration stands before those that its body starts, and before those of later entries; one whose
body fails is the last one of its loop.

Every node has a traced run, and what is left of it without the iterations is the run of the node
(`run_traced`).
-/

namespace DynamicSql

/-- An iteration of a loop that a run has started. -/
structure Iteration where
  /-- The loop. -/
  loop : Loop
  /-- The entry that the body is run for. -/
  entry : Entry
  /-- The id that was drawn. -/
  id : Nat

/-- A run that also gives the iterations it has started. -/
def Traced (α : Type) : Type := Env → List Iteration × Outcome α

namespace Traced

variable {α β : Type}

/-- The iterations that are started, in order. -/
def started (m : Traced α) (env : Env) : List Iteration := (m env).1

/-- What is left without the iterations. -/
def run (m : Traced α) : Run α := fun env => (m env).2

/-- A run that starts no iteration. -/
def ofRun (m : Run α) : Traced α := fun env => ([], m env)

/-- One run after the other; the second starts no iteration if the first ends with an error. -/
protected def bind (m : Traced α) (f : α → Traced β) : Traced β := fun env =>
  let others := match (m.run env).result with
    | .error _ => []
    | .ok a => (f a).started (m.run env).env
  (m.started env ++ others, Run.bind m.run (fun a => (f a).run) env)

instance : Monad Traced where
  pure a := ofRun (Run.pure a)
  bind := Traced.bind

/-- Starts an iteration: the next id is drawn for it. -/
def start (l : Loop) (entry : Entry) : Traced Nat := fun env =>
  ([⟨l, entry, env.counter⟩], Run.nextId env)

/-- The same iterations with a change of what is written or of the result. -/
def within (change : Run α → Run β) (m : Traced α) : Traced β := fun env =>
  (m.started env, change m.run env)

end Traced

/-! ## Loops -/

namespace Loop

/-- Runs the body for one entry, traced. -/
def entryTraced (l : Loop) (body : Traced Bool) (contributed : Bool) (entry : Entry) :
    Traced Bool := do
  let id ← Traced.start l entry
  Traced.ofRun (bindAlias l.index id entry.index)
  Traced.ofRun (bindAlias l.item id entry.item)
  let (_, fragments) ← body.within fun m =>
    (m.mapWritten (l.entryFragments contributed id)).listened
  return contributes fragments

/-- Runs the body for every entry, traced. -/
def entriesTraced (l : Loop) (body : Traced Bool) : Bool → List Entry → Traced Unit
  | _, [] => return
  | contributed, entry :: rest => do
    let now ← l.entryTraced body contributed entry
    l.entriesTraced body (contributed || now) rest

/-- Runs a loop around a body, traced. -/
def traced (l : Loop) (body : Traced Bool) : Traced Bool := do
  let entries ← Traced.ofRun (Run.ofBindings (·.evalEntries l.collection))
  if entries.isEmpty then
    return true
  else
    Traced.ofRun (Run.writeSome l.opening)
    l.entriesTraced body false entries
    Traced.ofRun (Run.writeSome l.closing)
    Traced.ofRun (Run.unbindSome l.item)
    Traced.ofRun (Run.unbindSome l.index)
    return true

end Loop

/-! ## Nodes -/

namespace Node

/-- Runs a body if a test is true, traced. -/
def guardTraced (test : Text) (body : Traced Bool) : Traced Bool := do
  if ← Traced.ofRun (Run.ofBindings (·.evalTruth test)) then
    let _ ← body
    return true
  else
    return false

mutual

/-- Runs a node, traced. -/
def traced : Node → Traced Bool
  | text content filter => Traced.ofRun (runText content filter)
  | guard test body => guardTraced test body.traced
  | choose branches otherwise => branchesTraced branches (optionTraced otherwise)
  | loop l body => l.traced body.traced
  | trim rule body => body.traced.within (runTrim rule)
  | bind name value => Traced.ofRun (runBind name value)
  | mixed children => allTraced children

/-- Runs several nodes in order, traced. -/
def allTraced : List Node → Traced Bool
  | [] => return true
  | child :: rest => do
    let _ ← child.traced
    allTraced rest

/-- Runs the first branch whose test is true, or else `otherwise`, traced. -/
def branchesTraced : List (Text × Node) → Traced Bool → Traced Bool
  | [], otherwise => otherwise
  | (test, body) :: rest, otherwise => do
    if ← guardTraced test body.traced then
      return true
    else
      branchesTraced rest otherwise

/-- Runs an optional node, traced. -/
def optionTraced : Option Node → Traced Bool
  | none => return false
  | some node => do
    let _ ← node.traced
    return true

end

end Node

/-! ## Without the iterations -/

namespace Traced

variable {α β : Type}

@[simp] lemma run_bind (m : Traced α) (f : α → Traced β) :
    (m >>= f).run = Run.bind m.run fun a => (f a).run := rfl

@[simp] lemma run_ofRun (m : Run α) : (ofRun m).run = m := rfl

@[simp] lemma run_within (change : Run α → Run β) (m : Traced α) :
    (m.within change).run = change m.run := rfl

end Traced

namespace Loop

lemma run_entryTraced (l : Loop) (body : Traced Bool) (contributed : Bool) (entry : Entry) :
    (l.entryTraced body contributed entry).run = l.runEntry body.run contributed entry := rfl

lemma run_entriesTraced (l : Loop) (body : Traced Bool) (contributed : Bool)
    (entries : List Entry) :
    (l.entriesTraced body contributed entries).run = l.runEntries body.run contributed entries := by
  induction entries generalizing contributed with
  | nil => rfl
  | cons entry rest ih =>
      simp only [entriesTraced, Traced.run_bind, run_entryTraced, ih]
      rfl

lemma run_traced (l : Loop) (body : Traced Bool) : (l.traced body).run = l.run body.run := by
  unfold traced run
  simp only [Traced.run_bind, Traced.run_ofRun]
  refine congrArg (Run.bind _) (funext fun entries => ?_)
  split
  · rfl
  · simp only [Traced.run_bind, run_entriesTraced]
    rfl

end Loop

namespace Node

lemma run_guardTraced (test : Text) (body : Traced Bool) :
    (guardTraced test body).run = runGuard test body.run := by
  unfold guardTraced runGuard
  rw [Traced.run_bind]
  refine congrArg (Run.bind _) (funext fun holds => ?_)
  cases holds <;> rfl

mutual

/-- **Tracing changes nothing in a run.** -/
theorem run_traced : (node : Node) → node.traced.run = node.run
  | text content filter => by
      simp only [traced, Traced.run_ofRun, run]
  | guard test body => by
      simp only [traced, run_guardTraced, run_traced body, run]
  | choose branches otherwise => by
      simp only [traced, run_branchesTraced branches, run_optionTraced otherwise, run]
  | loop l body => by
      simp only [traced, Loop.run_traced, run_traced body, run]
  | trim rule body => by
      simp only [traced, Traced.run_within, run_traced body, run]
  | bind name value => by
      simp only [traced, Traced.run_ofRun, run]
  | mixed children => by
      simp only [traced, run_allTraced children, run]

/-- Tracing changes nothing in the runs of several nodes. -/
theorem run_allTraced : (children : List Node) → (allTraced children).run = runAll children
  | [] => rfl
  | child :: rest => by
      simp only [allTraced, Traced.run_bind, run_traced child, run_allTraced rest, runAll]

/-- Tracing changes nothing in the run of branches. -/
theorem run_branchesTraced : (branches : List (Text × Node)) → (otherwise : Traced Bool) →
    (branchesTraced branches otherwise).run = runBranches branches otherwise.run
  | [], _ => rfl
  | (test, body) :: rest, otherwise => by
      simp only [branchesTraced, Traced.run_bind, run_guardTraced, run_traced body, runBranches]
      refine congrArg (Run.bind _) (funext fun taken => ?_)
      cases taken with
      | true => rfl
      | false => exact run_branchesTraced rest otherwise

/-- Tracing changes nothing in the run of an optional node. -/
theorem run_optionTraced : (node? : Option Node) → (optionTraced node?).run = runOption node?
  | none => rfl
  | some node => by
      simp only [optionTraced, Traced.run_bind, run_traced node, runOption]
      rfl

end

end Node

end DynamicSql
