import DynamicSql.Proofs.Node.Frame

/-!
# Nodes that a run starts

Bindings are flat, so what a name stands for where a node is started depends on all nodes that were
started before it. A run is described by the nodes it starts, in order, each with the bindings that
it finds and the iterations that it is in.

* `Loop.turns`: the entries of a loop whose turn comes, each with what the run finds then. They are
  those of the collection, in order (`Loop.entries_turns`).
* `Node.starts`: the nodes that the run of a node starts.
* `Start.Touches`, `Start.Rebinds`: what a start says about a name.
* `Node.startsWithin`: starts are in iterations of the loops of the tree only.
-/

namespace DynamicSql

/-! ## Turns of a loop -/

/-- The turn of an entry. -/
structure Turn where
  /-- The entry. -/
  entry : Entry
  /-- What the run finds before the aliases are bound for the entry. -/
  env : Env

namespace Loop

/-- The turns of entries in a row; none comes behind an entry that fails. -/
def entryTurns (l : Loop) (body : Run Bool) : List Entry → Env → List Turn
  | [], _ => []
  | entry :: rest, env =>
    ⟨entry, env⟩ :: body.onward (fun _ => l.entryTurns body rest) (l.enter entry env)

/-- The turns of a loop. -/
def turns (l : Loop) (body : Run Bool) : Env → List Turn :=
  (Run.ofBindings (·.evalEntries l.collection)).onward (l.entryTurns body)

/-- The turns of a loop over a collection. -/
lemma turns_of_entries {l : Loop} {env : Env} {entries : List Entry}
    (h : env.bindings.evalEntries l.collection = .ok entries) (body : Run Bool) :
    l.turns body env = l.entryTurns body entries env := by
  simp only [turns, Run.onward, Run.ofBindings, h]

/-- The turns of entries come in the order of the entries, and all of them come if none fails. -/
lemma entries_entryTurns (l : Loop) (body : Run Bool) (contributed : Bool) (entries : List Entry)
    (env : Env) :
    (l.entryTurns body entries env).map (·.entry) <+: entries ∧
      ((l.runEntries body contributed entries env).result.isOk = true →
        (l.entryTurns body entries env).map (·.entry) = entries) := by
  induction entries generalizing contributed env with
  | nil => exact ⟨List.prefix_rfl, fun _ => rfl⟩
  | cons entry rest ih =>
      rw [entryTurns, List.map_cons]
      rcases h : body (l.enter entry env) with ⟨written, env', e | taken⟩
      · have hresult := (runEntries_of_error h contributed rest).2
        simp only [Run.onward, h, hresult, List.map_nil]
        exact ⟨(List.prefix_cons_inj entry).2 List.nil_prefix, fun hok => by cases hok⟩
      · obtain ⟨now, -, hresult⟩ := exists_runEntries_cons h contributed rest
        obtain ⟨hfirst, hall⟩ := ih now env'
        simp only [Run.onward, h, hresult]
        exact ⟨(List.prefix_cons_inj entry).2 hfirst, fun hok => by rw [hall hok]⟩

/-- **The turns of a loop** come in the order of the entries, and all of them come if the loop
succeeds. -/
theorem entries_turns {l : Loop} {body : Run Bool} {entries : List Entry} {env : Env}
    (h : env.bindings.evalEntries l.collection = .ok entries) :
    (l.turns body env).map (·.entry) <+: entries ∧
      ((l.run body env).result.isOk = true → (l.turns body env).map (·.entry) = entries) := by
  obtain ⟨hfirst, hall⟩ := entries_entryTurns l body false entries env
  rw [turns_of_entries h]
  refine ⟨hfirst, fun hok => ?_⟩
  by_cases hne : entries = []
  · subst hne
    rfl
  · rw [run_of_entries h hne] at hok
    apply hall
    rcases hrun : l.runEntries body false entries env with ⟨written, env', e | x⟩
    · rw [hrun] at hok
      cases hok
    · rfl

/-- The iteration that is started when the turn of an entry comes. -/
def iteration (l : Loop) (t : Turn) : Iteration := ⟨l, t.entry, t.env.counter⟩

/-- What the body finds when the turn of an entry comes. -/
def enterTurn (l : Loop) (t : Turn) : Env := l.enter t.entry t.env

end Loop

/-! ## Starts -/

/-- A node that a run has started. -/
structure Start where
  /-- The node. -/
  node : Node
  /-- What names stand for when the node is started. -/
  bindings : Bindings
  /-- The iterations that the node is in, the innermost first. -/
  within : List Iteration

/-- The names that an iteration binds. -/
def Iteration.names (i : Iteration) : List Text :=
  i.loop.aliases ++ i.loop.aliases.map (syntheticName · i.id)

namespace Start

/-- The start of a node as it is seen from around an iteration. -/
def inside (i : Iteration) (s : Start) : Start := { s with within := s.within ++ [i] }

/-- Whether a scalar parameter is bound for the node, which is text with substitutions. -/
def bindsScalar (s : Start) : Bool :=
  match s.node with
  | .text content _ => Node.isDynamicText content && s.bindings.parameter.isScalar
  | _ => false

/-- Whether a name has been bound for an iteration that the node is in, or is bound for the node. -/
def Touches (a : Text) (s : Start) : Prop :=
  (∃ i ∈ s.within, a ∈ i.names) ∨ (a = Node.valueName ∧ s.bindsScalar = true)

/-- Whether a name is an alias of a loop that the node is in. -/
def Rebinds (a : Text) (s : Start) : Prop := ∃ i ∈ s.within, a ∈ i.loop.aliases

instance (a : Text) (s : Start) : Decidable (s.Touches a) := inferInstanceAs (Decidable (_ ∨ _))

instance (a : Text) (s : Start) : Decidable (s.Rebinds a) :=
  inferInstanceAs (Decidable (∃ i ∈ s.within, a ∈ i.loop.aliases))

variable {a : Text} {i : Iteration} {s : Start}

@[simp] lemma within_inside (i : Iteration) (s : Start) :
    (s.inside i).within = s.within ++ [i] := rfl

@[simp] lemma bindsScalar_inside (i : Iteration) (s : Start) :
    (s.inside i).bindsScalar = s.bindsScalar := rfl

/-- The iteration around has its aliases in addition. -/
lemma rebinds_inside_iff : (s.inside i).Rebinds a ↔ s.Rebinds a ∨ a ∈ i.loop.aliases := by
  simp only [Rebinds, within_inside, List.mem_append, List.mem_singleton, or_and_right, exists_or,
    exists_eq_left]

/-- The iteration around binds its names in addition. -/
lemma touches_inside_iff : (s.inside i).Touches a ↔ s.Touches a ∨ a ∈ i.names := by
  simp only [Touches, within_inside, bindsScalar_inside, List.mem_append, List.mem_singleton,
    or_and_right, exists_or, exists_eq_left, or_right_comm]

end Start

namespace Loop

/-- The starts that are made in turns of a loop, from those of the body. -/
def starts (l : Loop) (starts : Env → List Start) (turns : List Turn) : List Start :=
  turns.flatMap fun t => (starts (l.enterTurn t)).map (Start.inside (l.iteration t))

end Loop

namespace Node

/-- The starts of a guard, and of its body if the test is true. -/
def guardStarts (test : Text) (body : Node) (starts : Env → List Start) : Env → List Start :=
  fun env => ⟨guard test body, env.bindings, []⟩ ::
    (Run.ofBindings (·.evalTruth test)).onward (fun holds => if holds then starts else fun _ => [])
      env

mutual

/-- The nodes that the run of a node starts, in order. The first of them is the node itself, and
every branch of a choice counts as a guard. -/
def starts : Node → Env → List Start
  | text content filter => fun env => [⟨text content filter, env.bindings, []⟩]
  | guard test body => guardStarts test body body.starts
  | choose branches otherwise => fun env =>
    ⟨choose branches otherwise, env.bindings, []⟩ ::
      branchStarts branches (optionStarts otherwise) env
  | loop l body => fun env =>
    ⟨loop l body, env.bindings, []⟩ :: l.starts body.starts (l.turns body.run env)
  | trim rule body => fun env => ⟨trim rule body, env.bindings, []⟩ :: body.starts env
  | bind name value => fun env => [⟨bind name value, env.bindings, []⟩]
  | mixed children => fun env => ⟨mixed children, env.bindings, []⟩ :: listStarts children env

/-- The starts of several nodes. -/
def listStarts : List Node → Env → List Start
  | [] => fun _ => []
  | child :: rest => fun env =>
    child.starts env ++ child.run.onward (fun _ => listStarts rest) env

/-- The starts of branches, or else `otherwise`. -/
def branchStarts : List (Text × Node) → (Env → List Start) → Env → List Start
  | [], otherwise => otherwise
  | (test, body) :: rest, otherwise => fun env =>
    guardStarts test body body.starts env ++
      (runGuard test body.run).onward
        (fun taken => if taken then fun _ => [] else branchStarts rest otherwise) env

/-- The starts of an optional node. -/
def optionStarts : Option Node → Env → List Start
  | none => fun _ => []
  | some node => node.starts

end

/-- A node starts itself. -/
lemma starts_ne_nil (node : Node) (env : Env) : node.starts env ≠ [] := by
  cases node <;> exact List.cons_ne_nil _ _

end Node

/-! ### The loops that starts are in -/

/-- What comes behind a run comes from its result. -/
lemma Run.exists_of_mem_onward {α β : Type} {m : Run α} {next : α → Env → List β} {env : Env}
    {x : β} (h : x ∈ m.onward next env) : ∃ a env', x ∈ next a env' := by
  unfold onward at h
  rcases hm : m env with ⟨written, env', e | a⟩
  · rw [hm] at h
    cases h
  · rw [hm] at h
    exact ⟨a, env', h⟩

namespace Node

/-- Whether all iterations that some starts are in belong to loops among the nodes. -/
def StartsWithin (nodes : List Node) (starts : Env → List Start) : Prop :=
  ∀ env, ∀ s ∈ starts env, ∀ i ∈ s.within, ∃ body, loop i.loop body ∈ nodes

namespace StartsWithin

variable {nodes others : List Node} {starts later : Env → List Start}

lemma nil : StartsWithin nodes fun _ => [] := by
  intro env s hs
  cases hs

lemma mono (h : StartsWithin nodes starts) (hsub : nodes ⊆ others) :
    StartsWithin others starts := by
  intro env s hs i hi
  obtain ⟨body, hbody⟩ := h env s hs i hi
  exact ⟨body, hsub hbody⟩

lemma headed (first : Node) (h : StartsWithin nodes starts) :
    StartsWithin nodes fun env => ⟨first, env.bindings, []⟩ :: starts env := by
  intro env s hs
  rcases List.mem_cons.1 hs with rfl | hs
  · nofun
  · exact h env s hs

lemma append (h : StartsWithin nodes starts) (h' : StartsWithin others later) :
    StartsWithin (nodes ++ others) fun env => starts env ++ later env := by
  intro env s hs
  rcases List.mem_append.1 hs with hs | hs
  · exact h.mono (List.subset_append_left _ _) env s hs
  · exact h'.mono (List.subset_append_right _ _) env s hs

lemma onward {α : Type} {m : Run α} {next : α → Env → List Start}
    (h : ∀ a, StartsWithin nodes (next a)) : StartsWithin nodes (m.onward next) := by
  intro env s hs
  obtain ⟨a, env', hs⟩ := Run.exists_of_mem_onward hs
  exact h a env' s hs

lemma guard (test : Text) {body : Node} (h : StartsWithin body.parts starts) :
    StartsWithin body.parts (guardStarts test body starts) := by
  refine .headed _ (.onward fun holds => ?_)
  cases holds with
  | true => exact h
  | false => exact .nil

/-- Starts in a loop are in an iteration of it, too. -/
lemma loop (l : Loop) {body : Node} (h : StartsWithin body.parts starts) :
    StartsWithin (loop l body).parts fun env => l.starts starts (l.turns body.run env) := by
  intro env s hs i hi
  obtain ⟨t, -, hs⟩ := List.mem_flatMap.1 hs
  obtain ⟨inner, hinner, rfl⟩ := List.mem_map.1 hs
  rcases List.mem_append.1 hi with hi | hi
  · obtain ⟨other, hother⟩ := h _ inner hinner i hi
    exact ⟨other, List.mem_cons_of_mem _ hother⟩
  · rw [List.mem_singleton.1 hi]
    exact ⟨body, List.mem_cons_self⟩

end StartsWithin

mutual

/-- **Every start** is in iterations of loops of the tree. -/
theorem startsWithin : (node : Node) → StartsWithin node.parts node.starts
  | text content filter => .headed _ .nil
  | guard test body => (StartsWithin.guard test body.startsWithin).mono (List.subset_cons_self _ _)
  | choose branches otherwise => by
      have hbranches := startsWithin_branches branches (startsWithin_option otherwise)
      exact .headed _ (hbranches.mono (List.subset_cons_self _ _))
  | loop l body => .headed _ (.loop l body.startsWithin)
  | trim rule body => .headed _ (body.startsWithin.mono (List.subset_cons_self _ _))
  | bind name value => .headed _ .nil
  | mixed children =>
      .headed _ ((startsWithin_list children).mono (List.subset_cons_self _ _))

/-- Several nodes. -/
theorem startsWithin_list : (children : List Node) →
    StartsWithin (listParts children) (listStarts children)
  | [] => .nil
  | child :: rest => child.startsWithin.append (.onward fun _ => startsWithin_list rest)

/-- Branches. -/
theorem startsWithin_branches : (branches : List (Text × Node)) → {others : List Node} →
    {starts : Env → List Start} → StartsWithin others starts →
    StartsWithin (branchParts branches ++ others) (branchStarts branches starts)
  | [], _, _, h => h
  | (test, body) :: rest, others, starts, h => by
      rw [branchParts, List.append_assoc]
      refine (StartsWithin.guard test body.startsWithin).append (.onward fun taken => ?_)
      cases taken with
      | true => exact .nil
      | false => exact startsWithin_branches rest h

/-- An optional node. -/
theorem startsWithin_option : (node? : Option Node) →
    StartsWithin (optionParts node?) (optionStarts node?)
  | none => .nil
  | some node => node.startsWithin

end

/-- A name that no loop in a node has for an alias is touched by no start, unless it is reserved or
the name of a scalar parameter. -/
lemma not_touches {node : Node} {a : Text} (haliases : a ∉ loopAliases node.parts)
    (hreserved : isReserved a = false) (hvalue : a ≠ valueName) {env : Env} {s : Start}
    (hs : s ∈ node.starts env) : ¬ s.Touches a := by
  rintro (⟨i, hi, hmem⟩ | ⟨heq, -⟩)
  · rcases List.mem_append.1 hmem with hmem | hmem
    · obtain ⟨body, hbody⟩ := node.startsWithin env s hs i hi
      exact haliases (List.mem_flatMap.2 ⟨_, hbody, hmem⟩)
    · obtain ⟨other, -, heq⟩ := List.mem_map.1 hmem
      exact syntheticName_ne_of_not_reserved hreserved other i.id heq
  · exact hvalue heq

end Node

end DynamicSql
