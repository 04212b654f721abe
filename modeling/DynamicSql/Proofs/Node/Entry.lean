import DynamicSql.Node.Loop
import DynamicSql.Proofs.Placeholder.Reference

/-!
# Entries of a loop

Before the body of a loop is run for an entry, an id is drawn and the aliases of the loop are bound
for the entry, each by itself and by its name for the entry (`Loop.enter`). The run of an entry is
the run of the body from there, with other fragments (`runEntry_eq`). When all entries have been
run, the aliases are unbound (`Loop.leave`, `run_of_entries`).

Names for entries are reserved: a name that does not begin like them is none of them, and may be
bound and unbound without a change to theirs (`get?_insert_of_not_reserved`).
-/

namespace DynamicSql

/-! ## Reserved names -/

/-- Whether a name begins like the names for entries. -/
def isReserved (name : Text) : Bool := "__gen_".toList.isPrefixOf name

/-- Names for entries are reserved. -/
lemma isReserved_syntheticName (name : Text) (id : Nat) :
    isReserved (syntheticName name id) = true := by
  rw [isReserved, syntheticName_eq, List.isPrefixOf_iff_prefix, List.append_assoc]
  exact List.prefix_append _ _

/-- A name that is not reserved is no name for an entry. -/
lemma syntheticName_ne_of_not_reserved {name : Text} (h : isReserved name = false) (other : Text)
    (id : Nat) : syntheticName other id ≠ name := by
  rintro rfl
  rw [isReserved_syntheticName] at h
  cases h

namespace Table

variable {α : Type} {name other : Text} {id : Nat}

/-- Binding a name that is not reserved leaves the names for entries as they are. -/
lemma get?_insert_of_not_reserved (h : isReserved name = false) (t : Table α) (value : α) :
    (t.insert name value).get? (syntheticName other id) = t.get? (syntheticName other id) := by
  rw [get?_insert, if_neg (syntheticName_ne_of_not_reserved h other id)]

/-- Unbinding a name that is not reserved leaves the names for entries as they are. -/
lemma get?_erase_of_not_reserved (h : isReserved name = false) (t : Table α) :
    (t.erase name).get? (syntheticName other id) = t.get? (syntheticName other id) := by
  rw [get?_erase, if_neg (syntheticName_ne_of_not_reserved h other id)]

end Table

/-! ## The start of an entry -/

namespace Bindings

/-- The bindings with an alias, if there is one, bound for an entry. -/
def bindAlias (b : Bindings) (name? : Option Text) (id : Nat) (value : Value) : Bindings :=
  match name? with
  | none => b
  | some name => (b.insert name value).insert (syntheticName name id) value

end Bindings

namespace Loop

/-- The names and the counter that the body for an entry finds. -/
def enter (l : Loop) (entry : Entry) (env : Env) : Env where
  bindings := (env.bindings.bindAlias l.index env.counter entry.index).bindAlias l.item env.counter
    entry.item
  counter := env.counter + 1

/-- The aliases that a loop has. -/
def aliases (l : Loop) : List Text := l.item.toList ++ l.index.toList

lemma mem_aliases_iff {l : Loop} {name : Text} :
    name ∈ l.aliases ↔ name ∈ l.item ∨ name ∈ l.index := by
  rw [aliases, List.mem_append, Option.mem_toList, Option.mem_toList]
  rfl

lemma item_mem_aliases {l : Loop} {name : Text} (h : name ∈ l.item) : name ∈ l.aliases :=
  List.mem_append_left _ (Option.mem_toList.2 h)

lemma index_mem_aliases {l : Loop} {name : Text} (h : name ∈ l.index) : name ∈ l.aliases :=
  List.mem_append_right _ (Option.mem_toList.2 h)

/-- Binding an alias is a change of the bindings. -/
lemma bindAlias_eq (name? : Option Text) (id : Nat) (value : Value) (env : Env) :
    bindAlias name? id value env =
      ⟨[], { env with bindings := env.bindings.bindAlias name? id value }, .ok ()⟩ := by
  cases name? <;> rfl

/-- **The run of an entry** is the run of the body from the start of the entry. -/
theorem runEntry_eq (l : Loop) (body : Run Bool) (contributed : Bool) (entry : Entry) (env : Env) :
    l.runEntry body contributed entry env =
      let o := body (l.enter entry env)
      let fragments := l.entryFragments contributed env.counter o.written
      ⟨fragments, o.env, o.result.map fun _ => contributes fragments⟩ := by
  simp only [runEntry, bind, Run.bind, Run.nextId, bindAlias_eq, Run.listened, Run.mapWritten]
  rcases h : body (l.enter entry env) with ⟨written, env', e | taken⟩
  · rw [enter] at h
    simp only [h, Except.map, List.nil_append]
  · rw [enter] at h
    simp only [h, Except.map, pure, Run.pure, List.nil_append, List.append_nil]

section entries

variable {l : Loop} {body : Run Bool} {entry : Entry} {env env' : Env} {written : List Text}

/-- The run of entries goes on behind one that succeeds. -/
lemma exists_runEntries_cons {taken : Bool}
    (h : body (l.enter entry env) = ⟨written, env', .ok taken⟩) (contributed : Bool)
    (rest : List Entry) : ∃ now,
      (l.runEntries body contributed (entry :: rest) env).env =
          (l.runEntries body now rest env').env ∧
        (l.runEntries body contributed (entry :: rest) env).result =
          (l.runEntries body now rest env').result := by
  have hentry := runEntry_eq l body contributed entry env
  simp only [h, Except.map] at hentry
  simp only [runEntries, bind, Run.bind, hentry]
  exact ⟨_, rfl, rfl⟩

/-- The run of entries ends with one that fails. -/
lemma runEntries_of_error {e : EvalError}
    (h : body (l.enter entry env) = ⟨written, env', .error e⟩) (contributed : Bool)
    (rest : List Entry) :
    (l.runEntries body contributed (entry :: rest) env).env = env' ∧
      (l.runEntries body contributed (entry :: rest) env).result = .error e := by
  have hentry := runEntry_eq l body contributed entry env
  simp only [h, Except.map] at hentry
  simp only [runEntries, bind, Run.bind, hentry]
  exact ⟨trivial, trivial⟩

end entries

/-! ## The end of a loop -/

/-- The names and the counter that a loop leaves when all its entries have been run. -/
def leave (l : Loop) (env : Env) : Env :=
  let b := l.item.elim env.bindings env.bindings.erase
  { env with bindings := l.index.elim b b.erase }

/-- **The run of a loop with entries** is the run of the entries, between the opening and the
closing; the aliases are unbound only if all entries succeed. -/
theorem run_of_entries {l : Loop} {env : Env} {entries : List Entry}
    (h : env.bindings.evalEntries l.collection = .ok entries) (hne : entries ≠ [])
    (body : Run Bool) :
    l.run body env =
      match l.runEntries body false entries env with
      | ⟨written, env', .error e⟩ => ⟨l.opening.toList ++ written, env', .error e⟩
      | ⟨written, env', .ok _⟩ =>
        ⟨l.opening.toList ++ (written ++ l.closing.toList), l.leave env', .ok true⟩ := by
  have hwrite (fragment? : Option Text) (env : Env) :
      Run.writeSome fragment? env = ⟨fragment?.toList, env, .ok ()⟩ := by
    cases fragment? <;> rfl
  have hunbind (name? : Option Text) (env : Env) : Run.unbindSome name? env =
      ⟨[], { env with bindings := name?.elim env.bindings env.bindings.erase }, .ok ()⟩ := by
    cases name? <;> rfl
  have hempty : entries.isEmpty = false := List.isEmpty_eq_false_iff.2 hne
  simp only [run, bind, Run.bind, Run.ofBindings, h, hempty, Bool.false_eq_true, if_false, hwrite]
  rcases l.runEntries body false entries env with ⟨written, env', e | a⟩
  · rfl
  · simp only [hunbind, pure, Run.pure, leave, List.nil_append, List.append_nil]

end Loop

end DynamicSql
