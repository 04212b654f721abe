import DynamicSql.Node
import Mathlib.Tactic.Lemma

/-!
# Engines

A node asks for two things that it does not work out itself: the value of an expression, and the
leftmost match of a filter. An *engine* is any way to answer. With the standard engine, a node does
what its run says (`runWith_standard`); what holds for all engines therefore rests on what is asked,
and not on how it is answered.
-/

namespace DynamicSql

/-- Any way to evaluate expressions and to search for filters. -/
structure Engine where
  /-- The value of an expression given as text. -/
  eval : Bindings → Text → Except EvalError Value
  /-- Where the leftmost match of a pattern starts and ends. -/
  find? : Pattern → Text → Option (Nat × Nat)

namespace Engine

/-- The engine that runs use. -/
def standard : Engine := ⟨Bindings.eval, Pattern.find?⟩

variable (g : Engine)

/-- The truth of a condition. -/
def truth (b : Bindings) (expression : Text) : Except EvalError Bool :=
  (g.eval b expression).map Value.truthy

/-- The entries of a collection; null and scalars have none. -/
def entries (b : Bindings) (expression : Text) : Except EvalError (List Entry) :=
  (g.eval b expression).bind fun
    | .null => .error (.nullIterable expression)
    | .array items => .ok (Entry.ofItems 0 items)
    | .object fields => .ok (Entry.ofFields fields)
    | v => .error (.notIterable expression v)

/-- The value itself, if the leftmost match of the filter is all of it. -/
def filtered (filter : Option Pattern) (value : Text) : Except EvalError Text :=
  match filter with
  | none => .ok value
  | some p =>
    if g.find? p value == some (0, value.length) then .ok value
    else .error (.rejected value p.source)

/-- What a substitution stands for. -/
def substitutionText (b : Bindings) (filter : Option Pattern) (expression : Text) :
    Except EvalError Text :=
  (g.eval b expression).bind fun v => g.filtered filter v.toSql

/-- The text with its substitutions replaced. -/
def spliced (b : Bindings) (filter : Option Pattern) (content : Text) : Except EvalError Text :=
  Delimiters.substitution.scan (g.substitutionText b filter) content

end Engine

namespace Node

variable (g : Engine)

/-! ## Nodes with an engine -/

/-- Writes text, with its substitutions replaced if it has any. -/
def textWith (content : Text) (filter : Option Pattern) : Run Bool := do
  if isDynamicText content then
    Run.modifyBindings bindScalar
    let sql ← Run.ofBindings (g.spliced · filter content)
    Run.write sql
    return true
  else
    Run.write content
    return true

/-- Runs a body if a test is true; tells whether it was. -/
def guardWith (test : Text) (body : Run Bool) : Run Bool := do
  if ← Run.ofBindings (g.truth · test) then
    let _ ← body
    return true
  else
    return false

/-- Binds the value of an expression. -/
def bindWith (name value : Text) : Run Bool := do
  let v ← Run.ofBindings (g.eval · value)
  Run.bindName name v
  return true

/-- Runs a loop around a body. -/
def loopWith (l : Loop) (body : Run Bool) : Run Bool := do
  let entries ← Run.ofBindings (g.entries · l.collection)
  if entries.isEmpty then
    return true
  else
    Run.writeSome l.opening
    l.runEntries body false entries
    Run.writeSome l.closing
    Run.unbindSome l.item
    Run.unbindSome l.index
    return true

mutual

/-- Runs a node with an engine. -/
def runWith (g : Engine) : Node → Run Bool
  | text content filter => textWith g content filter
  | guard test body => guardWith g test (body.runWith g)
  | choose branches otherwise => branchesWith g branches (optionWith g otherwise)
  | loop l body => loopWith g l (body.runWith g)
  | trim rule body => runTrim rule (body.runWith g)
  | bind name value => bindWith g name value
  | mixed children => allWith g children

/-- Runs several nodes with an engine, in order. -/
def allWith (g : Engine) : List Node → Run Bool
  | [] => Run.pure true
  | child :: rest => Run.bind (child.runWith g) fun _ => allWith g rest

/-- Runs the first branch whose test is true, or else `otherwise`, with an engine. -/
def branchesWith (g : Engine) : List (Text × Node) → Run Bool → Run Bool
  | [], otherwise => otherwise
  | (test, body) :: rest, otherwise =>
    Run.bind (guardWith g test (body.runWith g)) fun taken =>
      if taken then Run.pure true else branchesWith g rest otherwise

/-- Runs an optional node with an engine. -/
def optionWith (g : Engine) : Option Node → Run Bool
  | none => Run.pure false
  | some node => Run.bind (node.runWith g) fun _ => Run.pure true

end

/-! ## The standard engine -/

/-- A filter accepts what the standard engine lets through. -/
lemma filtered_standard (filter : Option Pattern) (value : Text) :
    Engine.standard.filtered filter value = Node.filtered filter value := by
  cases filter <;> rfl

/-- Text is written as the standard engine says. -/
lemma textWith_standard (content : Text) (filter : Option Pattern) :
    textWith Engine.standard content filter = runText content filter := by
  have hspliced (b : Bindings) :
      Engine.standard.spliced b filter content = Node.spliced b filter content := by
    have hreplace : Engine.standard.substitutionText b filter = Node.substitutionText b filter := by
      funext expression
      simp only [Engine.substitutionText, Node.substitutionText, filtered_standard]
      rfl
    rw [Engine.spliced, Node.spliced, hreplace]
  simp only [textWith, runText, hspliced]

mutual

/-- **With the standard engine a node does what its run says.** -/
theorem runWith_standard : (node : Node) → node.runWith Engine.standard = node.run
  | text content filter => textWith_standard content filter
  | guard test body => by
      rw [runWith, runWith_standard body]
      rfl
  | choose branches otherwise => by
      rw [runWith, optionWith_standard otherwise, branchesWith_standard branches, run]
  | loop l body => by
      rw [runWith, runWith_standard body]
      rfl
  | trim rule body => by rw [runWith, runWith_standard body, run]
  | bind name value => rfl
  | mixed children => by rw [runWith, allWith_standard children, run]

/-- Several nodes do what their runs say. -/
theorem allWith_standard : (children : List Node) →
    allWith Engine.standard children = runAll children
  | [] => rfl
  | child :: rest => by rw [allWith, runWith_standard child, allWith_standard rest, runAll]

/-- Branches do what their runs say. -/
theorem branchesWith_standard : (branches : List (Text × Node)) → (otherwise : Run Bool) →
    branchesWith Engine.standard branches otherwise = runBranches branches otherwise
  | [], _ => rfl
  | (test, body) :: rest, otherwise => by
      rw [branchesWith, runWith_standard body, branchesWith_standard rest, runBranches]
      rfl

/-- An optional node does what its run says. -/
theorem optionWith_standard : (node? : Option Node) →
    optionWith Engine.standard node? = runOption node?
  | none => rfl
  | some node => by rw [optionWith, runWith_standard node, runOption]

end

end Node

end DynamicSql
