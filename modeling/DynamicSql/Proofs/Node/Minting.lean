import DynamicSql.Proofs.Node.Entry
import DynamicSql.Proofs.Node.Parts
import DynamicSql.Proofs.Node.Tracing

/-!
# Ids and names of iterations

A run draws one id for every iteration that it starts, and counts on. The names that an iteration
makes from its id stand for its entry until the run ends, with or without an error, as nothing else
is bound or unbound under such a name: the aliases of loops and the names of bindings only have not
to be reserved (`WellNamed`).

* `Mints`: what the environment at the end has to do with that at the start, and with the
  iterations in between. It is closed under runs in a row (`Mints.append`) and under the start of
  an iteration (`Mints.start`).
* `minting_traced`: it holds for every node, and `ids_started_and_kept` is what this says.
-/

namespace DynamicSql

/-- Whether the names of an iteration stand for its entry. -/
structure Iteration.KeptIn (i : Iteration) (b : Bindings) : Prop where
  /-- The name made from the alias of the value stands for the value. -/
  item : ∀ name ∈ i.loop.item, b.get? (syntheticName name i.id) = some i.entry.item
  /-- The name made from the alias of the index stands for the index. -/
  index : ∀ name ∈ i.loop.index, b.get? (syntheticName name i.id) = some i.entry.index

/-- Names stand for the same where nothing else is bound to them. -/
lemma Iteration.KeptIn.of_same {i : Iteration} {b b' : Bindings} (hkept : i.KeptIn b)
    (h : ∀ name, b'.get? (syntheticName name i.id) = b.get? (syntheticName name i.id)) :
    i.KeptIn b' where
  item name hname := (h name).trans (hkept.item name hname)
  index name hname := (h name).trans (hkept.index name hname)

/-- Whether some iterations lead from one environment to another. -/
structure Mints (env : Env) (started : List Iteration) (env' : Env) : Prop where
  /-- The counter goes up by one for each of them. -/
  counter : env'.counter = env.counter + started.length
  /-- Their ids are counted from the first environment on. -/
  ids : started.map (·.id) = List.range' env.counter started.length
  /-- Their names stand for their entries in the end. -/
  kept : ∀ i ∈ started, i.KeptIn env'.bindings
  /-- Names made from earlier ids are what they were. -/
  old : ∀ name id, id < env.counter →
    env'.bindings.get? (syntheticName name id) = env.bindings.get? (syntheticName name id)

/-! ## Steps of an environment -/

namespace Mints

variable {env env' env'' : Env} {started others : List Iteration}

/-- A change of other names starts nothing. -/
lemma of_unchanged {b : Bindings}
    (h : ∀ name id, b.get? (syntheticName name id) = env.bindings.get? (syntheticName name id)) :
    Mints env [] { env with bindings := b } where
  counter := rfl
  ids := rfl
  kept := nofun
  old name id _ := h name id

/-- The ids that have been drawn are below the counter. -/
lemma id_lt (h : Mints env started env') {i : Iteration} (hi : i ∈ started) :
    i.id < env'.counter := by
  have hid : i.id ∈ List.range' env.counter started.length := by
    rw [← h.ids]
    exact List.mem_map_of_mem hi
  rw [List.mem_range'_1] at hid
  rw [h.counter]
  exact hid.2

/-- **Iterations in a row**: the later ones do not touch the names of the earlier ones. -/
theorem append (h : Mints env started env') (h' : Mints env' others env'') :
    Mints env (started ++ others) env'' where
  counter := by
    rw [h'.counter, h.counter, List.length_append, Nat.add_assoc]
  ids := by
    rw [List.map_append, h.ids, h'.ids, h.counter, List.length_append, List.range'_append_1]
  kept i hi := by
    rcases List.mem_append.1 hi with hi | hi
    · exact (h.kept i hi).of_same fun name => h'.old name i.id (h.id_lt hi)
    · exact h'.kept i hi
  old name id hid := by
    -- the counter only goes up, so an id that is old at the start is old in between
    have hid' : id < env'.counter := by
      rw [h.counter]
      omega
    rw [h'.old name id hid', h.old name id hid]

end Mints

/-- What names for entries stand for when an alias has been bound. -/
lemma Bindings.get?_bindAlias {name? : Option Text}
    (h : ∀ name ∈ name?, isReserved name = false) (b : Bindings) (id : Nat) (value : Value)
    (other : Text) (j : Nat) :
    (b.bindAlias name? id value).get? (syntheticName other j) =
      if name? = some other ∧ id = j then some value else b.get? (syntheticName other j) := by
  cases name? with
  | none => simp [bindAlias]
  | some name =>
      have hother := @Table.get?_insert_of_not_reserved _ name other j (h name rfl) b value
      rw [bindAlias, Table.get?_insert, hother]
      by_cases heq : syntheticName other j = syntheticName name id
      · obtain ⟨rfl, rfl⟩ := syntheticName_inj_iff.1 heq
        simp
      · have hne : ¬(some name = some other ∧ id = j) := by
          rintro ⟨hname, rfl⟩
          exact heq (by rw [Option.some.inj hname])
        rw [if_neg heq, if_neg hne]

section start

variable {l : Loop} (haliases : ∀ name ∈ l.aliases, isReserved name = false)
  (hdistinct : ∀ name ∈ l.item, name ∉ l.index)

include haliases

/-- What names for entries stand for at the start of an entry. -/
lemma Loop.get?_enter (entry : Entry) (env : Env) (name : Text) (id : Nat) :
    (l.enter entry env).bindings.get? (syntheticName name id) =
      if l.item = some name ∧ env.counter = id then some entry.item
      else if l.index = some name ∧ env.counter = id then some entry.index
      else env.bindings.get? (syntheticName name id) := by
  have hitem : ∀ name ∈ l.item, isReserved name = false := fun name hname =>
    haliases name (item_mem_aliases hname)
  have hindex : ∀ name ∈ l.index, isReserved name = false := fun name hname =>
    haliases name (index_mem_aliases hname)
  simp only [enter, Bindings.get?_bindAlias hitem, Bindings.get?_bindAlias hindex]

include hdistinct

/-- The names of an entry stand for it at its start. -/
lemma Loop.keptIn_enter (entry : Entry) (env : Env) :
    (⟨l, entry, env.counter⟩ : Iteration).KeptIn (l.enter entry env).bindings where
  item name hname := by
    rw [get?_enter haliases, if_pos ⟨hname, rfl⟩]
  index name hname := by
    have hitem : l.item ≠ some name := fun hitem => hdistinct name hitem hname
    rw [get?_enter haliases, if_neg (fun hboth => hitem hboth.1), if_pos ⟨hname, rfl⟩]

/-- **The start of an iteration** binds its names before anything else happens, and what happens
then leaves them alone, as they are made from an id below the counter. -/
theorem Mints.start {entry : Entry} {env env' : Env} {started : List Iteration}
    (h : Mints (l.enter entry env) started env') :
    Mints env (⟨l, entry, env.counter⟩ :: started) env' where
  counter := by
    have hcounter : (l.enter entry env).counter = env.counter + 1 := rfl
    rw [h.counter, hcounter, List.length_cons, Nat.add_assoc, Nat.add_comm 1]
  ids := by
    rw [List.map_cons, h.ids, Loop.enter, List.length_cons, List.range'_succ]
  kept i hi := by
    rcases List.mem_cons.1 hi with rfl | hi
    · have hlt : env.counter < (l.enter entry env).counter := Nat.lt_succ_self _
      exact (Loop.keptIn_enter haliases hdistinct entry env).of_same fun name => h.old name _ hlt
    · exact h.kept i hi
  old name id hid := by
    have hlt : id < (l.enter entry env).counter := Nat.lt_succ_of_lt hid
    have hne : env.counter ≠ id := by omega
    rw [h.old name id hlt, Loop.get?_enter haliases, if_neg (fun hboth => hne hboth.2),
      if_neg (fun hboth => hne hboth.2)]

end start

/-! ## Traced runs -/

namespace Traced

variable {α β : Type} {m : Traced α}

/-- The iterations of two runs in a row. -/
lemma started_bind (f : α → Traced β) (env : Env) :
    (m >>= f).started env = m.started env ++
      match (m.run env).result with
      | .error _ => []
      | .ok a => (f a).started (m.run env).env := rfl

/-- The iterations of two runs in a row, if the first succeeds. -/
lemma started_bind_of_ok {f : α → Traced β} {env env' : Env} {written : List Text} {a : α}
    (h : m.run env = ⟨written, env', .ok a⟩) :
    (m >>= f).started env = m.started env ++ (f a).started env' := by
  rw [started_bind, h]

/-- The iterations of a run before one that starts none. -/
lemma started_bind_of_nil {f : α → Traced β} (h : ∀ a env, (f a).started env = [])
    (env : Env) : (m >>= f).started env = m.started env := by
  rw [started_bind]
  cases (m.run env).result <;> simp [h]

/-- Whether a run draws an id for every iteration it starts, and keeps the names made from them. -/
def Minting (m : Traced α) : Prop := ∀ env, Mints env (m.started env) (m.run env).env

namespace Minting

/-- A run that leaves the environment as it is starts nothing. -/
lemma of_env {m : Run α} (h : ∀ env, (m env).env = env) : Minting (ofRun m) := by
  intro env
  have hunchanged : Mints env [] env := .of_unchanged fun _ _ => rfl
  change Mints env [] (m env).env
  rw [h]
  exact hunchanged

/-- A run that changes other names only starts nothing. -/
lemma modifyBindings {f : Bindings → Bindings}
    (h : ∀ b name id, (f b).get? (syntheticName name id) = b.get? (syntheticName name id)) :
    Minting (ofRun (Run.modifyBindings f)) :=
  fun env => .of_unchanged (h env.bindings)

lemma pure (a : α) : Minting (Pure.pure a : Traced α) := of_env fun _ => rfl

/-- Runs in a row. -/
theorem bind {f : α → Traced β} (hm : Minting m) (hf : ∀ a, Minting (f a)) :
    Minting (m >>= f) := by
  intro env
  change Mints env (m.started env ++ _) (Run.bind m.run (fun a => (f a).run) env).env
  have hfirst := hm env
  rcases h : m.run env with ⟨written, env', e | a⟩
  · rw [h] at hfirst
    simp only [Run.bind, h, List.append_nil]
    exact hfirst
  · rw [h] at hfirst
    simp only [Run.bind, h]
    exact hfirst.append (hf a env')

/-- Runs in a row that start nothing. -/
lemma ofRun_bind {m : Run α} {f : α → Run β} (hm : Minting (ofRun m))
    (hf : ∀ a, Minting (ofRun (f a))) : Minting (ofRun (Run.bind m f)) := by
  intro env
  have hboth := bind hm hf env
  rw [started_bind_of_nil fun _ _ => rfl] at hboth
  exact hboth

/-- A change of what is written or of the result. -/
lemma within {change : Run α → Run β} (hchange : ∀ m env, (change m env).env = (m env).env)
    (hm : Minting m) : Minting (m.within change) := by
  intro env
  change Mints env (m.started env) (change m.run env).env
  rw [hchange]
  exact hm env

end Minting

end Traced

/-! ## Loops -/

namespace Loop

variable {l : Loop} {body : Traced Bool}

/-- **The iterations of an entry** are the entry's own, and then those of the body. -/
theorem started_entryTraced (contributed : Bool) (entry : Entry) (env : Env) :
    (l.entryTraced body contributed entry).started env =
      ⟨l, entry, env.counter⟩ :: body.started (l.enter entry env) := by
  have hstart : (Traced.start l entry).run env =
      ⟨[], { env with counter := env.counter + 1 }, .ok env.counter⟩ := rfl
  have halias (name? : Option Text) (id : Nat) (value : Value) (env : Env) :
      (Traced.ofRun (bindAlias name? id value)).run env =
        ⟨[], { env with bindings := env.bindings.bindAlias name? id value }, .ok ()⟩ :=
    bindAlias_eq name? id value env
  unfold entryTraced
  rw [Traced.started_bind_of_ok hstart, Traced.started_bind_of_ok (halias _ _ _ _),
    Traced.started_bind_of_ok (halias _ _ _ _), Traced.started_bind_of_nil fun _ _ => rfl]
  rfl

/-- The environment at the end of an entry is that at the end of the body. -/
lemma env_entryTraced (contributed : Bool) (entry : Entry) (env : Env) :
    ((l.entryTraced body contributed entry).run env).env =
      (body.run (l.enter entry env)).env := by
  rw [run_entryTraced, runEntry_eq]

variable (haliases : ∀ name ∈ l.aliases, isReserved name = false)
  (hdistinct : ∀ name ∈ l.item, name ∉ l.index) (hbody : body.Minting)

include haliases

/-- Unbinding the aliases of a loop keeps names for entries. -/
lemma minting_unbindSome {name? : Option Text} (hname : ∀ name ∈ name?, name ∈ l.aliases) :
    (Traced.ofRun (Run.unbindSome name?)).Minting := by
  cases name? with
  | none => exact .of_env fun _ => rfl
  | some name =>
      have hreserved := haliases name (hname name rfl)
      exact .modifyBindings fun b _ _ => Table.get?_erase_of_not_reserved hreserved b

include hdistinct hbody

/-- An entry draws its id before its body draws others. -/
lemma minting_entryTraced (contributed : Bool) (entry : Entry) :
    (l.entryTraced body contributed entry).Minting := by
  intro env
  rw [started_entryTraced, env_entryTraced]
  exact .start haliases hdistinct (hbody _)

/-- Entries draw their ids one after the other, until one of them fails. -/
lemma minting_entriesTraced (contributed : Bool) (entries : List Entry) :
    (l.entriesTraced body contributed entries).Minting := by
  induction entries generalizing contributed with
  | nil => exact .pure ()
  | cons entry rest ih =>
      exact .bind (minting_entryTraced haliases hdistinct hbody contributed entry) fun now => ih _

/-- **A loop** draws the ids of its entries, with those of the body in between. -/
theorem minting_traced : (l.traced body).Minting := by
  have hwrite (fragment? : Option Text) : (Traced.ofRun (Run.writeSome fragment?)).Minting :=
    .of_env fun _ => by cases fragment? <;> rfl
  refine .bind (.of_env fun _ => rfl) fun entries => ?_
  split
  · exact .pure true
  · refine .bind (hwrite l.opening) fun _ => ?_
    refine .bind (minting_entriesTraced haliases hdistinct hbody false entries) fun _ => ?_
    refine .bind (hwrite l.closing) fun _ => ?_
    refine .bind (minting_unbindSome haliases fun _ => item_mem_aliases) fun _ => ?_
    exact .bind (minting_unbindSome haliases fun _ => index_mem_aliases) fun _ => .pure true

end Loop

/-! ## Nodes -/

namespace Node

/-- Whether the nodes of a template leave the names for entries to the loops. -/
structure WellNamed (nodes : List Node) : Prop where
  /-- No name that is bound is reserved. -/
  bind : ∀ name value, .bind name value ∈ nodes → isReserved name = false
  /-- No alias of a loop is reserved. -/
  aliases : ∀ l body, .loop l body ∈ nodes → ∀ name ∈ l.aliases, isReserved name = false
  /-- No loop has one alias for value and index. -/
  distinct : ∀ l body, .loop l body ∈ nodes → ∀ name ∈ l.item, name ∉ l.index

/-- Some of the nodes. -/
lemma WellNamed.mono {nodes others : List Node} (h : WellNamed nodes) (hsub : others ⊆ nodes) :
    WellNamed others where
  bind name value hmem := h.bind name value (hsub hmem)
  aliases l body hmem := h.aliases l body (hsub hmem)
  distinct l body hmem := h.distinct l body (hsub hmem)

/-- Text binds no name but that of a scalar parameter. -/
lemma minting_text (content : Text) (filter : Option Pattern) :
    (Traced.ofRun (runText content filter)).Minting := by
  have hreserved : isReserved valueName = false := by decide
  have hscalar (b : Bindings) (name : Text) (id : Nat) :
      (bindScalar b).get? (syntheticName name id) = b.get? (syntheticName name id) := by
    unfold bindScalar
    split
    · exact Table.get?_insert_of_not_reserved hreserved _ _
    · rfl
  unfold runText
  split
  · refine .ofRun_bind (.modifyBindings hscalar) fun _ => ?_
    refine .ofRun_bind (.of_env fun _ => rfl) fun sql => ?_
    exact .ofRun_bind (.of_env fun _ => rfl) fun _ => .pure true
  · exact .ofRun_bind (.of_env fun _ => rfl) fun _ => .pure true

/-- A binding binds its name. -/
lemma minting_bind {name : Text} (h : isReserved name = false) (value : Text) :
    (Traced.ofRun (runBind name value)).Minting := by
  refine .ofRun_bind (.of_env fun _ => rfl) fun v => ?_
  refine .ofRun_bind (.modifyBindings fun b _ _ => ?_) fun _ => .pure true
  exact Table.get?_insert_of_not_reserved h b v

/-- A guard. -/
lemma minting_guardTraced (test : Text) {body : Traced Bool} (hbody : body.Minting) :
    (guardTraced test body).Minting := by
  refine .bind (.of_env fun _ => rfl) fun holds => ?_
  cases holds with
  | true => exact .bind hbody fun _ => .pure true
  | false => exact .pure false

/-- Trimming changes what is written only. -/
lemma env_runTrim (rule : TrimRule) (m : Run Bool) (env : Env) :
    (runTrim rule m env).env = (m env).env := by
  unfold runTrim Run.collected
  dsimp only
  split <;> rfl

/-- Trimming neither fails nor mends a failure. -/
lemma result_runTrim (rule : TrimRule) (m : Run Bool) (env : Env) :
    (runTrim rule m env).result = (m env).result := by
  rcases h : m env with ⟨written, env', e | a⟩ <;> simp only [runTrim, Run.collected, h]

mutual

/-- **Every node** draws an id for each iteration it starts, and keeps the names made from them. -/
theorem minting_traced : (node : Node) → WellNamed node.parts → node.traced.Minting
  | text content filter, _ => by
      unfold traced
      exact minting_text content filter
  | guard test body, h => by
      unfold traced
      exact minting_guardTraced test (minting_traced body (h.mono (List.subset_cons_self _ _)))
  | choose branches otherwise, h => by
      have hall : WellNamed (branchParts branches ++ optionParts otherwise) :=
        h.mono (List.subset_cons_self _ _)
      unfold traced
      exact minting_branchesTraced branches (hall.mono (List.subset_append_left _ _))
        (minting_optionTraced otherwise (hall.mono (List.subset_append_right _ _)))
  | loop l body, h => by
      have hself : loop l body ∈ (loop l body).parts := List.mem_cons_self
      unfold traced
      exact Loop.minting_traced (h.aliases l body hself) (h.distinct l body hself)
        (minting_traced body (h.mono (List.subset_cons_self _ _)))
  | trim rule body, h => by
      unfold traced
      exact .within (env_runTrim rule) (minting_traced body (h.mono (List.subset_cons_self _ _)))
  | bind name value, h => by
      have hself : bind name value ∈ (bind name value).parts := List.mem_cons_self
      unfold traced
      exact minting_bind (h.bind name value hself) value
  | mixed children, h => by
      unfold traced
      exact minting_allTraced children (h.mono (List.subset_cons_self _ _))

/-- Several nodes. -/
theorem minting_allTraced : (children : List Node) → WellNamed (listParts children) →
    (allTraced children).Minting
  | [], _ => .pure true
  | child :: rest, h => by
      unfold allTraced
      exact .bind (minting_traced child (h.mono (List.subset_append_left _ _))) fun _ =>
        minting_allTraced rest (h.mono (List.subset_append_right _ _))

/-- Branches. -/
theorem minting_branchesTraced : (branches : List (Text × Node)) →
    WellNamed (branchParts branches) → {otherwise : Traced Bool} → otherwise.Minting →
    (branchesTraced branches otherwise).Minting
  | [], _, _, hotherwise => by
      unfold branchesTraced
      exact hotherwise
  | (test, body) :: rest, h, otherwise, hotherwise => by
      have hbody := minting_traced body (h.mono (List.subset_append_left _ _))
      unfold branchesTraced
      refine .bind (minting_guardTraced test hbody) fun taken => ?_
      cases taken with
      | true => exact .pure true
      | false =>
          exact minting_branchesTraced rest (h.mono (List.subset_append_right _ _)) hotherwise

/-- An optional node. -/
theorem minting_optionTraced : (node? : Option Node) → WellNamed (optionParts node?) →
    (optionTraced node?).Minting
  | none, _ => .pure false
  | some node, h => by
      unfold optionTraced
      exact .bind (minting_traced node h) fun _ => .pure true

end

/-- **Fresh and permanent names.** Tell of a run which iterations it starts, in order. Whether it
fails or not, their ids are those from the counter at the start to that at the end, and in the end
the names made from them stand for the values and indices of the entries. -/
theorem ids_started_and_kept (node : Node) (h : WellNamed node.parts) (env : Env) :
    ∃ started, node.traced env = (started, node.run env) ∧
      env.counter ≤ (node.run env).env.counter ∧
      started.map (·.id) =
        List.range' env.counter ((node.run env).env.counter - env.counter) ∧
      ∀ i ∈ started, i.KeptIn (node.run env).env.bindings := by
  have hmints := minting_traced node h env
  rw [run_traced] at hmints
  refine ⟨node.traced.started env, ?_, ?_, ?_, hmints.kept⟩
  · rw [← run_traced node]
    rfl
  · rw [hmints.counter]
    exact Nat.le_add_right _ _
  · rw [hmints.ids, hmints.counter, Nat.add_sub_cancel_left]

/-- Two loops under one alias, the inner one over the values of the outer one. The second of those
is no collection, which ends the run with an error after its id has been drawn. -/
theorem ids_started_and_kept_nested :
    let inner : Loop := { collection := "item".toList, item := some "item".toList }
    let outer : Loop := { collection := "groups".toList, item := some "item".toList }
    let node : Node := .loop outer (.loop inner (.mixed []))
    let groups : List Value := [.array [.integer 7, .integer 8], .integer 9]
    let env : Env := ⟨Bindings.ofCall (.object [("groups".toList, .array groups)]) none, 0⟩
    WellNamed node.parts ∧ (node.run env).result.isOk = false ∧
      ∃ started, node.traced env = (started, node.run env) ∧
        started.map (·.id) = [0, 1, 2, 3] ∧
        ∀ i ∈ started, i.KeptIn (node.run env).env.bindings := by
  intro inner outer node groups env
  have hloop (l : Loop) (body : Node) (hmem : .loop l body ∈ node.parts) :
      l = outer ∨ l = inner := by
    simp only [node, parts, listParts, List.mem_cons, loop.injEq, reduceCtorEq, List.not_mem_nil,
      or_false] at hmem
    exact hmem.imp And.left And.left
  have hnamed : WellNamed node.parts := by
    constructor
    · intro name value hmem
      simp [node, parts, listParts] at hmem
    · intro l body hmem
      rcases hloop l body hmem with rfl | rfl <;> decide
    · intro l body hmem
      rcases hloop l body hmem with rfl | rfl <;> exact fun _ _ => nofun
  have hgroups : Expr.parse outer.collection = .ok (.ref "groups".toList) :=
    Path.parse_name (by decide)
  have hitem : Expr.parse inner.collection = .ok (.ref "item".toList) :=
    Path.parse_name (by decide)
  have heval : (node.traced env).1.map (·.id) = [0, 1, 2, 3] ∧
      (node.traced.run env).result.isOk = false := by
    simp only [node, outer, inner, Traced.run, traced, Loop.traced, Bindings.evalEntries,
      Bindings.eval, hgroups, hitem]
    decide +kernel
  obtain ⟨started, htraced, -, -, hkept⟩ := ids_started_and_kept node hnamed env
  rw [htraced, run_traced] at heval
  exact ⟨hnamed, heval.2, started, htraced, heval.1, hkept⟩

end Node

end DynamicSql
