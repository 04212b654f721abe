import DynamicSql.Eval

/-!
# Runs

A node of a template is run under bindings and a counter for unique ids. A run writes fragments,
may change bindings and counter, and ends with a result or an error; what was written and bound
before an error stays. Nothing in a run reads what has been written, so a run is a function of
bindings and counter alone, and the fragments of a part can be changed by the part around it.
-/

namespace DynamicSql

/-- What a run can read and change. -/
structure Env where
  /-- The names that expressions may use. -/
  bindings : Bindings
  /-- The next unique id. -/
  counter : Nat

/-- What a run leaves behind. -/
structure Outcome (α : Type) where
  /-- The fragments written, in order. -/
  written : List Text
  /-- The bindings and the counter at the end. -/
  env : Env
  /-- The result, or the error that ended the run. -/
  result : Except EvalError α

/-- A computation that writes fragments. -/
def Run (α : Type) : Type := Env → Outcome α

namespace Run

variable {α β : Type}

/-- The run that does nothing but give a result. -/
protected def pure (a : α) : Run α := fun env => ⟨[], env, .ok a⟩

/-- One run after the other; an error of the first is the error of both. -/
protected def bind (m : Run α) (f : α → Run β) : Run β := fun env =>
  match m env with
  | ⟨written, env, .error e⟩ => ⟨written, env, .error e⟩
  | ⟨written, env, .ok a⟩ =>
    let rest := f a env
    { rest with written := written ++ rest.written }

instance : Monad Run where
  pure := Run.pure
  bind := Run.bind

/-- Writes a fragment. -/
def write (fragment : Text) : Run Unit := fun env => ⟨[fragment], env, .ok ()⟩

/-- Writes a fragment, if there is one. -/
def writeSome : Option Text → Run Unit
  | some fragment => write fragment
  | none => Run.pure ()

/-- Computes a result from the bindings. -/
def ofBindings (f : Bindings → Except EvalError α) : Run α := fun env =>
  ⟨[], env, f env.bindings⟩

/-- Changes the bindings. -/
def modifyBindings (f : Bindings → Bindings) : Run Unit := fun env =>
  ⟨[], { env with bindings := f env.bindings }, .ok ()⟩

/-- Binds a name. -/
def bindName (name : Text) (value : Value) : Run Unit := modifyBindings (·.insert name value)

/-- Unbinds a name. -/
def unbind (name : Text) : Run Unit := modifyBindings (·.erase name)

/-- Unbinds a name, if there is one. -/
def unbindSome : Option Text → Run Unit
  | some name => unbind name
  | none => Run.pure ()

/-- Takes the next unique id. -/
def nextId : Run Nat := fun env => ⟨[], { env with counter := env.counter + 1 }, .ok env.counter⟩

/-- The run with its fragments changed, whether it succeeds or not. -/
def mapWritten (f : List Text → List Text) (m : Run α) : Run α := fun env =>
  let o := m env
  { o with written := f o.written }

/-- The run with its fragments changed if it succeeds, and dropped if it does not. -/
def collected (f : List Text → List Text) (m : Run α) : Run α := fun env =>
  let o := m env
  match o.result with
  | .ok _ => { o with written := f o.written }
  | .error _ => { o with written := [] }

/-- The run with its fragments at hand in the result. -/
def listened (m : Run α) : Run (α × List Text) := fun env =>
  let o := m env
  { o with result := o.result.map fun a => (a, o.written) }

end Run

end DynamicSql
