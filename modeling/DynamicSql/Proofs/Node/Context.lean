import DynamicSql.Node
import DynamicSql.Proofs.Fragment

/-!
# Nodes in a context

A run collects the fragments that a node writes. Here nodes work in a *context* instead: a state
that takes fragments one by one, together with the bindings and the counter. A part of a template
may stand in a context of its own, which passes on what it takes: trimming keeps a buffer, a loop
puts separators before fragments and renames the placeholders in them.

The main statements say that this is the same.

* `runIn_eq`: in any context a node does what its run says, and the context takes the fragments
  that the run has collected.
* `runIn_text`: in a context that joins fragments to a text, only the seam depends on the text.
-/

namespace DynamicSql

/-- A computation in a context with state `σ`; the state and the names stay as they are when an
error ends it. -/
abbrev InContext (σ α : Type) : Type := ExceptT EvalError (StateM (σ × Env)) α

namespace InContext

variable {σ τ α : Type}

/-- One computation after the other; an error of the first is the error of both. -/
lemma bind_apply {β : Type} (m : InContext σ α) (f : α → InContext σ β) (c : σ × Env) :
    (m >>= f) c = match m c with
      | (.ok a, c') => f a c'
      | (.error e, c') => (.error e, c') := by
  simp only [bind, ExceptT.bind, ExceptT.mk, ExceptT.bindCont, StateT.bind]
  rcases m c with ⟨e | a, c'⟩ <;> rfl

/-- Gives a fragment to the context. -/
def emit (append : σ → Text → σ) (fragment : Text) : InContext σ Unit :=
  modify fun c => (append c.1 fragment, c.2)

/-- Gives a fragment to the context, if there is one. -/
def emitSome (append : σ → Text → σ) : Option Text → InContext σ Unit
  | some fragment => emit append fragment
  | none => pure ()

/-- Computes a result from the bindings. -/
def evaluate (f : Bindings → Except EvalError α) : InContext σ α := do
  let c ← get
  match f c.2.bindings with
  | .ok a => return a
  | .error e => throw e

/-- Changes the bindings. -/
def rebind (f : Bindings → Bindings) : InContext σ Unit :=
  modify fun c => (c.1, { c.2 with bindings := f c.2.bindings })

/-- Takes the next unique id. -/
def freshId : InContext σ Nat := do
  let c ← get
  set (c.1, { c.2 with counter := c.2.counter + 1 })
  return c.2.counter

/-- Works in an inner context, and goes on in the outer one with what is left of it. -/
def nested (enter : σ → τ) (leave : τ → σ) (m : InContext τ α) : InContext σ α := fun c =>
  match m (enter c.1, c.2) with
  | (r, (t, env)) => (r, (leave t, env))

/-- A result together with the state of the context at that point. -/
def withState (m : InContext τ α) : InContext τ (α × τ) := do
  let a ← m
  let c ← get
  return (a, c.1)

end InContext

namespace Node

open InContext

variable {σ : Type}

/-! ## The contexts of trimming and of loops -/

/-- A context with a buffer of its own in front of the outer one. -/
def buffered (c : σ × Text) (fragment : Text) : σ × Text := (c.1, Fragment.append c.2 fragment)

/-- A context that puts a separator before the first fragment that is not blank, and tells
whether there was one. -/
def separated (separator : Option Text) (append : σ → Text → σ) (c : σ × Bool) (fragment : Text) :
    σ × Bool :=
  if !c.2 && !Text.allBlank fragment then
    (append (separator.toList.foldl append c.1) fragment, true)
  else (append c.1 fragment, c.2)

/-- A context that renames the aliases of a loop in the placeholders of the fragments. -/
def aliased {τ : Type} (l : Loop) (id : Nat) (append : τ → Text → τ) (c : τ) (fragment : Text) :
    τ :=
  append c (l.renameFragment id fragment)

/-! ## Nodes -/

/-- Text in a context. -/
def textIn (append : σ → Text → σ) (content : Text) (filter : Option Pattern) :
    InContext σ Bool := do
  if isDynamicText content then
    rebind bindScalar
    let sql ← evaluate (spliced · filter content)
    emit append sql
    return true
  else
    emit append content
    return true

/-- A guarded body in a context. -/
def guardIn (test : Text) (body : InContext σ Bool) : InContext σ Bool := do
  if ← evaluate (·.evalTruth test) then
    let _ ← body
    return true
  else
    return false

/-- A trimmed body in a context; the body has a buffer of its own. -/
def trimIn (append : σ → Text → σ) (rule : TrimRule) (body : InContext (σ × Text) Bool) :
    InContext σ Bool := do
  let (result, c) ← nested (fun s => (s, [])) Prod.fst (withState body)
  emit append (rule.apply c.2)
  return result

/-- The alias of an entry in a context. -/
def aliasIn (name? : Option Text) (id : Nat) (value : Value) : InContext σ Unit :=
  match name? with
  | none => pure ()
  | some name => do
    rebind (·.insert name value)
    rebind (·.insert (syntheticName name id) value)

/-- The entries of a loop in a context, of which the first ones may have contributed nothing.
What the body does depends on its separator and the id of the entry. -/
def entriesIn (l : Loop) (body : Option Text → Nat → InContext (σ × Bool) Bool) :
    Bool → List Entry → InContext σ Unit
  | _, [] => pure ()
  | contributed, entry :: rest => do
    let id ← freshId
    aliasIn l.index id entry.index
    aliasIn l.item id entry.item
    let separator := if contributed then l.separator else none
    let (_, c) ← nested (fun s => (s, false)) Prod.fst (withState (body separator id))
    entriesIn l body (contributed || c.2) rest

/-- A loop in a context. -/
def loopIn (append : σ → Text → σ) (l : Loop)
    (body : Option Text → Nat → InContext (σ × Bool) Bool) : InContext σ Bool := do
  let entries ← evaluate (·.evalEntries l.collection)
  if entries.isEmpty then
    return true
  else
    emitSome append l.opening
    entriesIn l body false entries
    emitSome append l.closing
    rebind fun b => l.item.elim b b.erase
    rebind fun b => l.index.elim b b.erase
    return true

/-- The value of an expression bound to a name in a context. -/
def bindIn (name value : Text) : InContext σ Bool := do
  let v ← evaluate (·.eval value)
  rebind (·.insert name v)
  return true

mutual

/-- A node in a context. -/
def runIn : Node → {σ : Type} → (σ → Text → σ) → InContext σ Bool
  | text content filter, _, append => textIn append content filter
  | guard test body, _, append => guardIn test (body.runIn append)
  | choose branches otherwise, _, append =>
    branchesIn branches append (optionIn otherwise append)
  | loop l body, _, append =>
    loopIn append l fun separator id => body.runIn (aliased l id (separated separator append))
  | trim rule body, _, append => trimIn append rule (body.runIn buffered)
  | bind name value, _, _ => bindIn name value
  | mixed children, _, append => allIn children append

/-- Several nodes in a context, in order. -/
def allIn : List Node → {σ : Type} → (σ → Text → σ) → InContext σ Bool
  | [], _, _ => pure true
  | child :: rest, _, append => do
    let _ ← child.runIn append
    allIn rest append

/-- The first branch whose test is true, or else `otherwise`, in a context. -/
def branchesIn : List (Text × Node) → {σ : Type} → (σ → Text → σ) → InContext σ Bool →
    InContext σ Bool
  | [], _, _, otherwise => otherwise
  | (test, body) :: rest, _, append, otherwise => do
    if ← guardIn test (body.runIn append) then
      return true
    else
      branchesIn rest append otherwise

/-- An optional node in a context. -/
def optionIn : Option Node → {σ : Type} → (σ → Text → σ) → InContext σ Bool
  | none, _, _ => pure false
  | some node, _, append => do
    let _ ← node.runIn append
    return true

end

end Node

/-! ## What a run does to a context -/

namespace Run

variable {σ α β : Type} (append : σ → Text → σ)

/-- The run in a context: the context takes the fragments that are written, one by one. -/
def into (append : σ → Text → σ) (m : Run α) : InContext σ α := fun c =>
  ((m c.2).result, ((m c.2).written.foldl append c.1, (m c.2).env))

lemma into_pure (a : α) : (pure a : Run α).into append = pure a := rfl

/-- A run after another is put into a context one after the other. -/
lemma into_bind (m : Run α) (f : α → Run β) :
    (m >>= f).into append = m.into append >>= fun a => (f a).into append := by
  funext c
  rw [InContext.bind_apply]
  change into append (Run.bind m f) c = _
  rcases h : m c.2 with ⟨written, env, e | a⟩
  · simp only [into, Run.bind, h]
  · simp only [into, Run.bind, h, List.foldl_append]

lemma into_write (fragment : Text) :
    (write fragment).into append = InContext.emit append fragment := rfl

lemma into_writeSome (fragment? : Option Text) :
    (writeSome fragment?).into append = InContext.emitSome append fragment? := by
  cases fragment? <;> rfl

lemma into_ofBindings (f : Bindings → Except EvalError α) :
    (ofBindings f).into append = InContext.evaluate f := by
  funext c
  change (f c.2.bindings, c) = (match f c.2.bindings with
    | .ok a => pure a
    | .error e => throw e : InContext σ α) c
  rcases f c.2.bindings with e | a <;> rfl

lemma into_modifyBindings (f : Bindings → Bindings) :
    (modifyBindings f).into append = InContext.rebind f := rfl

lemma into_nextId : nextId.into append = InContext.freshId := rfl

end Run

namespace Node

open InContext

variable {σ : Type} (append : σ → Text → σ)

/-! ### Text, guards and bindings -/

lemma into_runText (content : Text) (filter : Option Pattern) :
    (runText content filter).into append = textIn append content filter := by
  unfold runText textIn
  split
  · rw [Run.into_bind, Run.into_modifyBindings]
    refine bind_congr fun _ => ?_
    rw [Run.into_bind, Run.into_ofBindings]
    refine bind_congr fun sql => ?_
    rw [Run.into_bind, Run.into_write, Run.into_pure]
  · rw [Run.into_bind, Run.into_write, Run.into_pure]

lemma into_runGuard (test : Text) (body : Run Bool) :
    (runGuard test body).into append = guardIn test (body.into append) := by
  unfold runGuard guardIn
  rw [Run.into_bind, Run.into_ofBindings]
  refine bind_congr fun holds => ?_
  cases holds with
  | true => exact Run.into_bind append body _
  | false => rfl

lemma into_runBind (name value : Text) :
    (runBind name value).into append = bindIn name value := by
  unfold runBind bindIn
  rw [Run.into_bind, Run.into_ofBindings]
  refine bind_congr fun v => ?_
  rw [Run.into_bind, Run.bindName, Run.into_modifyBindings, Run.into_pure]

/-! ### Trimming -/

/-- A buffer in front of a context joins what it takes. -/
lemma foldl_buffered (s : σ) (buffer : Text) (fragments : List Text) :
    fragments.foldl buffered (s, buffer) = (s, Fragment.appendAll buffer fragments) := by
  induction fragments generalizing buffer with
  | nil => rfl
  | cons f rest ih => exact ih (Fragment.append buffer f)

lemma into_runTrim (rule : TrimRule) (body : Run Bool) :
    (runTrim rule body).into append = trimIn append rule (body.into buffered) := by
  funext c
  unfold trimIn
  rw [bind_apply]
  simp only [nested, withState, bind_apply, Run.into, foldl_buffered, runTrim, Run.collected]
  rcases h : (body c.2).result with e | a
  · rfl
  · rfl

/-! ### Loops -/

/-- A context that has put its separator passes everything on. -/
lemma foldl_separated_true (separator : Option Text) (s : σ) (fragments : List Text) :
    fragments.foldl (separated separator append) (s, true) = (fragments.foldl append s, true) := by
  induction fragments generalizing s with
  | nil => rfl
  | cons f rest ih => exact ih (append s f)

/-- A context with a separator puts it where the fragments of an entry have it. -/
lemma foldl_separated (separator : Option Text) (s : σ) (fragments : List Text) :
    fragments.foldl (separated separator append) (s, false) =
      ((separator.elim fragments (Loop.separated · fragments)).foldl append s,
        Loop.contributes fragments) := by
  induction fragments generalizing s with
  | nil => cases separator <;> rfl
  | cons f rest ih =>
      rw [List.foldl_cons]
      by_cases hf : Text.allBlank f = true
      · have hstep : separated separator append (s, false) f = (append s f, false) := by
          simp [separated, hf]
        rw [hstep, ih]
        cases separator <;> simp [Loop.separated, Loop.contributes, hf]
      · have hstep : separated separator append (s, false) f =
            (append (separator.toList.foldl append s) f, true) := by
          simp [separated, hf]
        rw [hstep, foldl_separated_true]
        cases separator <;> simp [Loop.separated, Loop.contributes, hf]

/-- A separator counts for nothing: it is put only before a fragment that contributes. -/
lemma contributes_separated (separator : Text) (fragments : List Text) :
    Loop.contributes (Loop.separated separator fragments) = Loop.contributes fragments := by
  induction fragments with
  | nil => rfl
  | cons f rest ih =>
      by_cases hf : Text.allBlank f = true
      · simp only [Loop.separated, hf, if_true]
        simpa [Loop.contributes, hf] using ih
      · simp [Loop.separated, Loop.contributes, hf]

/-- The fragments of an entry are the renamed ones, behind a separator if there is one and an
earlier entry contributed. -/
lemma entryFragments_eq (l : Loop) (contributed : Bool) (id : Nat) (fragments : List Text) :
    l.entryFragments contributed id fragments =
      (if contributed then l.separator else none).elim (fragments.map (l.renameFragment id))
        (Loop.separated · (fragments.map (l.renameFragment id))) := by
  unfold Loop.entryFragments
  cases l.separator <;> cases contributed <;> rfl

/-- An entry contributes if the renamed fragments do. -/
lemma contributes_entryFragments (l : Loop) (contributed : Bool) (id : Nat)
    (fragments : List Text) :
    Loop.contributes (l.entryFragments contributed id fragments) =
      Loop.contributes (fragments.map (l.renameFragment id)) := by
  rw [entryFragments_eq]
  cases (if contributed then l.separator else none) with
  | none => rfl
  | some separator => exact contributes_separated separator _

/-- What the contexts of a loop make of the fragments of an entry. -/
lemma foldl_aliased (l : Loop) (contributed : Bool) (id : Nat) (s : σ) (fragments : List Text) :
    fragments.foldl
        (aliased l id (separated (if contributed then l.separator else none) append)) (s, false) =
      ((l.entryFragments contributed id fragments).foldl append s,
        Loop.contributes (l.entryFragments contributed id fragments)) := by
  rw [contributes_entryFragments, entryFragments_eq, ← foldl_separated, List.foldl_map]
  rfl

/-- The body of an entry, run in the contexts of the loop. -/
lemma into_entry (l : Loop) (contributed : Bool) (id : Nat) (body : Run Bool) :
    (do
      let (_, fragments) ← (body.mapWritten (l.entryFragments contributed id)).listened
      return Loop.contributes fragments : Run Bool).into append =
    (do
      let (_, c) ← nested (fun s => (s, false)) Prod.fst (withState (body.into
        (aliased l id (separated (if contributed then l.separator else none) append))))
      return c.2) := by
  funext c
  rw [Run.into_bind, bind_apply, bind_apply]
  simp only [nested, withState, bind_apply, Run.into, Run.listened, Run.mapWritten, foldl_aliased]
  rcases (body c.2).result with e | a
  · rfl
  · rfl

lemma into_bindAlias (name? : Option Text) (id : Nat) (value : Value) :
    (Loop.bindAlias name? id value).into append = aliasIn name? id value := by
  cases name? with
  | none => rfl
  | some name => exact Run.into_bind append _ _

lemma into_runEntries (l : Loop) (body : Run Bool) (contributed : Bool) (entries : List Entry) :
    (l.runEntries body contributed entries).into append =
      entriesIn l (fun separator id => body.into (aliased l id (separated separator append)))
        contributed entries := by
  induction entries generalizing contributed with
  | nil => rfl
  | cons entry rest ih =>
      unfold Loop.runEntries entriesIn Loop.runEntry
      rw [Run.into_bind, Run.into_bind, bind_assoc, Run.into_nextId]
      refine bind_congr fun id => ?_
      rw [Run.into_bind, bind_assoc, into_bindAlias]
      refine bind_congr fun _ => ?_
      rw [Run.into_bind, bind_assoc, into_bindAlias]
      refine bind_congr fun _ => ?_
      rw [into_entry, bind_assoc]
      refine bind_congr fun c => ?_
      rw [pure_bind, ih]

lemma into_unbindSome (name? : Option Text) :
    (Run.unbindSome name?).into append = rebind fun b => name?.elim b b.erase := by
  cases name? <;> rfl

lemma into_loop (l : Loop) (body : Run Bool) :
    (l.run body).into append =
      loopIn append l fun separator id => body.into (aliased l id (separated separator append)) := by
  unfold Loop.run loopIn
  rw [Run.into_bind, Run.into_ofBindings]
  refine bind_congr fun entries => ?_
  split
  · rfl
  · rw [Run.into_bind, Run.into_writeSome]
    refine bind_congr fun _ => ?_
    rw [Run.into_bind, into_runEntries]
    refine bind_congr fun _ => ?_
    rw [Run.into_bind, Run.into_writeSome]
    refine bind_congr fun _ => ?_
    rw [Run.into_bind, into_unbindSome]
    refine bind_congr fun _ => ?_
    rw [Run.into_bind, into_unbindSome, Run.into_pure]

/-! ### All nodes -/

mutual

/-- **A node in a context does what its run says**: the result, the bindings and the counter are
those of the run, and the context takes the fragments of the run in order. -/
theorem runIn_eq : (node : Node) → {σ : Type} → (append : σ → Text → σ) →
    node.runIn append = node.run.into append
  | text content filter, _, append => (into_runText append content filter).symm
  | guard test body, _, append => by
      rw [runIn, runIn_eq body, run, into_runGuard]
  | choose branches otherwise, _, append => by
      rw [runIn, optionIn_eq otherwise, branchesIn_eq branches, run]
  | loop l body, _, append => by
      simp only [runIn, runIn_eq body]
      rw [run, into_loop]
  | trim rule body, _, append => by
      rw [runIn, runIn_eq body, run, into_runTrim]
  | bind name value, _, append => (into_runBind append name value).symm
  | mixed children, _, append => by
      rw [runIn, allIn_eq children, run]

/-- Several nodes in a context do what their runs say. -/
theorem allIn_eq : (children : List Node) → {σ : Type} → (append : σ → Text → σ) →
    allIn children append = (runAll children).into append
  | [], _, _ => rfl
  | child :: rest, _, append => by
      rw [allIn, runIn_eq child, allIn_eq rest]
      exact (Run.into_bind append child.run _).symm

/-- Branches in a context do what their runs say. -/
theorem branchesIn_eq : (branches : List (Text × Node)) → {σ : Type} →
    (append : σ → Text → σ) → (otherwise : Run Bool) →
    branchesIn branches append (otherwise.into append) =
      (runBranches branches otherwise).into append
  | [], _, _, _ => rfl
  | (test, body) :: rest, _, append, otherwise => by
      rw [branchesIn, runIn_eq body, ← into_runGuard, branchesIn_eq rest]
      refine Eq.trans ?_ (Run.into_bind append (runGuard test body.run) _).symm
      refine bind_congr fun taken => ?_
      cases taken <;> rfl

/-- An optional node in a context does what its run says. -/
theorem optionIn_eq : (node? : Option Node) → {σ : Type} → (append : σ → Text → σ) →
    optionIn node? append = (runOption node?).into append
  | none, _, _ => rfl
  | some node, _, append => by
      rw [optionIn, runIn_eq node]
      exact (Run.into_bind append node.run fun _ => Run.pure true).symm

end

/-! ## Texts as contexts -/

/-- Nodes in a row are run part by part. -/
lemma allIn_append (xs ys : List Node) :
    allIn (xs ++ ys) append = allIn xs append >>= fun _ => allIn ys append := by
  induction xs with
  | nil => rw [List.nil_append, allIn, pure_bind]
  | cons x xs ih => rw [List.cons_append, allIn, allIn, ih, bind_assoc]

/-- Nodes in a row need not be grouped. -/
lemma allIn_mixed (before children after : List Node) :
    allIn (before ++ mixed children :: after) append =
      allIn (before ++ children ++ after) append := by
  rw [allIn_append, List.append_assoc, allIn_append, allIn_append, allIn, runIn]

/-- **What a node writes does not depend on what is written before it.** Whatever text a context
holds, a node ends with the same result or the same error, leaves the same bindings and the same
counter, and joins the same text to that of the context; all this is what the run of the node
says. Nothing is taken from the text of the context. Grouping nodes changes nothing. -/
theorem runIn_text :
    (∀ (node : Node) (s : Text) (env : Env), ∃ result text env',
      node.runIn Fragment.append ([], env) = (result, (text, env')) ∧
      node.runIn Fragment.append (s, env) = (result, (Fragment.append s text, env')) ∧
      s <+: Fragment.append s text ∧
      node.run env = ⟨(node.run env).written, env', result⟩ ∧
      Fragment.join (node.run env).written = text) ∧
    ∀ (before children after : List Node) (σ : Type) (append : σ → Text → σ),
      (mixed (before ++ mixed children :: after)).runIn append =
        (mixed (before ++ children ++ after)).runIn append := by
  refine ⟨fun node s env => ?_, fun before children after σ append => ?_⟩
  · refine ⟨(node.run env).result, Fragment.join (node.run env).written, (node.run env).env,
      ?_, ?_, Fragment.prefix_append s _, rfl, rfl⟩
    · rw [runIn_eq]
      rfl
    · rw [runIn_eq, ← Fragment.appendAll_eq_append_join]
      rfl
  · rw [runIn, runIn, allIn_mixed]

end Node

end DynamicSql
