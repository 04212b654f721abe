import DynamicSql.Proofs.Node.Starts

/-!
# Names that a run spares

What a name stands for after some starts can be told from them, if no node binds the name. It stands
for what it stood for if the starts did not touch it. If a loop had it for an alias, it stands for
nothing, as loops unbind their aliases at the end.

* `Spares`: what starts say about a name. It is closed under starts in a row (`Spares.append`).
* `Run.Sparing`: a run does so with a name at its end, and at every start that is in no iteration.
* `Node.sparing_run`: the runs of all nodes do, if no node in them binds the name.
-/

namespace DynamicSql

/-! ## What starts say about a name -/

/-- What a name stands for in the end, if there have been some starts since. -/
structure Spares (a : Text) (starts : List Start) (b b' : Bindings) : Prop where
  /-- It stands for what it stood for if it was not bound. -/
  same : (∀ s ∈ starts, ¬ s.Touches a) → b'.get? a = b.get? a
  /-- It stands for nothing if it was bound as an alias and not otherwise. -/
  gone : (∀ s ∈ starts, s.Touches a → s.Rebinds a) → (∃ s ∈ starts, s.Rebinds a) →
    b'.get? a = none

namespace Spares

variable {a : Text} {starts others : List Start} {b b' b'' : Bindings}

lemma nil (h : b'.get? a = b.get? a) : Spares a [] b b' where
  same _ := h
  gone _ hexists := by
    obtain ⟨s, hs, -⟩ := hexists
    cases hs

/-- **Starts in a row.** If the alias is bound in the first ones only, it is unbound when the others
begin, and they leave it alone. -/
theorem append (h : Spares a starts b b') (h' : Spares a others b' b'') :
    Spares a (starts ++ others) b b'' where
  same hnot := by
    rw [List.forall_mem_append] at hnot
    rw [h'.same hnot.2, h.same hnot.1]
  gone halias hexists := by
    rw [List.forall_mem_append] at halias
    by_cases hlater : ∃ s ∈ others, s.Rebinds a
    · exact h'.gone halias.2 hlater
    · have hearlier : ∃ s ∈ starts, s.Rebinds a := by
        obtain ⟨s, hs, hrebinds⟩ := hexists
        rcases List.mem_append.1 hs with hs | hs
        · exact ⟨s, hs, hrebinds⟩
        · exact absurd ⟨s, hs, hrebinds⟩ hlater
      have hnot : ∀ s ∈ others, ¬ s.Touches a := fun s hs htouches =>
        hlater ⟨s, hs, halias.2 s hs htouches⟩
      rw [h'.same hnot, h.gone halias.1 hearlier]

/-- A start that is in no iteration. -/
lemma single {node : Node} (h : ¬ (⟨node, b, []⟩ : Start).Touches a → b'.get? a = b.get? a) :
    Spares a [⟨node, b, []⟩] b b' where
  same hnot := h (hnot _ List.mem_cons_self)
  gone _ hexists := by
    obtain ⟨s, hs, i, hi, -⟩ := hexists
    rw [List.mem_singleton.1 hs] at hi
    cases hi

/-- A start before others that is in no iteration and changes nothing. -/
lemma cons {node : Node} (h : Spares a starts b b') :
    Spares a (⟨node, b, []⟩ :: starts) b b' :=
  (single fun _ => rfl).append h

end Spares

/-! ## Sparing runs -/

/-- Where an element stands in two lists in a row. -/
lemma append_eq_append_cons {α : Type} {xs ys before after : List α} {x : α}
    (h : xs ++ ys = before ++ x :: after) :
    (∃ rest, xs = before ++ x :: rest) ∨ ∃ rest, before = xs ++ rest ∧ ys = rest ++ x :: after := by
  rcases List.append_eq_append_iff.1 h with ⟨rest, hbefore, hys⟩ | ⟨rest, hxs, hrest⟩
  · exact .inr ⟨rest, hbefore, hys⟩
  · cases rest with
    | nil => exact .inr ⟨[], by simpa using hxs.symm, by simpa using hrest.symm⟩
    | cons y rest =>
        obtain ⟨rfl, -⟩ := List.cons.inj hrest
        exact .inl ⟨rest, hxs⟩

namespace Run

variable {α β : Type} {a : Text} {m : Run α} {starts : Env → List Start}

/-- Whether a run with some starts has done with a name what they say, at its end and at every start
that is in no iteration. -/
structure Sparing (a : Text) (m : Run α) (starts : Env → List Start) : Prop where
  /-- At a start, by the starts before it. -/
  untilStart : ∀ env before s after, starts env = before ++ s :: after → s.within = [] →
    Spares a before env.bindings s.bindings
  /-- At the end, by all starts. -/
  atEnd : ∀ env, (m env).result.isOk = true →
    Spares a (starts env) env.bindings (m env).env.bindings

namespace Sparing

/-- A run without starts that does not change the name. -/
lemma of_same (h : ∀ env, (m env).env.bindings.get? a = env.bindings.get? a) :
    Sparing a m fun _ => [] where
  untilStart env before s after hsplit := by simp at hsplit
  atEnd env _ := .nil (h env)

lemma pure (x : α) : Sparing a (Run.pure x) fun _ => [] := of_same fun _ => rfl

/-- **Runs in a row.** -/
theorem bind {f : α → Run β} {others : α → Env → List Start} (hm : Sparing a m starts)
    (hf : ∀ x, Sparing a (f x) (others x)) :
    Sparing a (Run.bind m f) fun env => starts env ++ m.onward others env := by
  constructor
  · intro env before s after hsplit hwithin
    rcases h : m env with ⟨written, env', e | x⟩
    · simp only [onward, h, List.append_nil] at hsplit
      exact hm.untilStart env before s after hsplit hwithin
    · simp only [onward, h] at hsplit
      rcases append_eq_append_cons hsplit with ⟨rest, hfirst⟩ | ⟨rest, rfl, hsecond⟩
      · exact hm.untilStart env before s rest hfirst hwithin
      · have hend := hm.atEnd env (by rw [h]; rfl)
        rw [h] at hend
        exact hend.append ((hf x).untilStart env' rest s after hsecond hwithin)
  · intro env hok
    have hend := hm.atEnd env
    rcases h : m env with ⟨written, env', e | x⟩
    · simp only [Run.bind, h] at hok
      cases hok
    · rw [h] at hend
      simp only [Run.bind, onward, h] at hok ⊢
      exact (hend rfl).append ((hf x).atEnd env' hok)

/-- A run behind one without starts. -/
lemma bind_quiet {f : α → Run β} {others : α → Env → List Start}
    (hm : Sparing a m fun _ => []) (hf : ∀ x, Sparing a (f x) (others x)) :
    Sparing a (Run.bind m f) (m.onward others) := by
  simpa only [List.nil_append] using hm.bind hf

/-- A run before one without starts. -/
lemma bind_last {f : α → Run β} (hm : Sparing a m starts)
    (hf : ∀ x, Sparing a (f x) fun _ => []) : Sparing a (Run.bind m f) starts := by
  simpa only [onward_nil, List.append_nil] using hm.bind hf

/-- A node that is started before its run. -/
lemma headed (node : Node) (hm : Sparing a m starts) :
    Sparing a m fun env => ⟨node, env.bindings, []⟩ :: starts env where
  untilStart env before s after hsplit hwithin := by
    cases before with
    | nil =>
        obtain ⟨rfl, -⟩ := List.cons.inj hsplit
        exact .nil rfl
    | cons first before =>
        obtain ⟨rfl, hrest⟩ := List.cons.inj hsplit
        exact (hm.untilStart env before s after hrest hwithin).cons
  atEnd env hok := (hm.atEnd env hok).cons

/-- A node before starts that are all in some iteration. -/
lemma alone {node : Node} (hwithin : ∀ env, ∀ s ∈ starts env, s.within ≠ [])
    (hend : ∀ env, (m env).result.isOk = true →
      Spares a (⟨node, env.bindings, []⟩ :: starts env) env.bindings (m env).env.bindings) :
    Sparing a m fun env => ⟨node, env.bindings, []⟩ :: starts env where
  untilStart env before s after hsplit hs := by
    cases before with
    | nil =>
        obtain ⟨rfl, -⟩ := List.cons.inj hsplit
        exact .nil rfl
    | cons first before =>
        obtain ⟨-, hrest⟩ := List.cons.inj hsplit
        refine absurd hs (hwithin env s ?_)
        rw [hrest]
        exact List.mem_append_right _ List.mem_cons_self
  atEnd := hend

end Sparing

end Run

/-! ### Loops -/

namespace Loop

variable {l : Loop} {a : Text} {body : Run Bool} {starts : Env → List Start}

/-- A turn touches the names of its iteration. -/
lemma exists_touches_turn (hne : ∀ env, starts env ≠ []) {t : Turn}
    (ha : a ∈ (l.iteration t).names) :
    ∃ s ∈ (starts (l.enterTurn t)).map (Start.inside (l.iteration t)), s.Touches a := by
  obtain ⟨s, hs⟩ := List.exists_mem_of_ne_nil _ (hne (l.enterTurn t))
  exact ⟨_, List.mem_map_of_mem hs, Start.touches_inside_iff.2 (.inr ha)⟩

/-- The names of the iteration are bound in a turn, and then comes the body. -/
lemma spares_turn (hne : ∀ env, starts env ≠ []) (ha : a ∉ l.aliases) (t : Turn) {b : Bindings}
    (h : Spares a (starts (l.enterTurn t)) (l.enterTurn t).bindings b) :
    Spares a ((starts (l.enterTurn t)).map (Start.inside (l.iteration t))) t.env.bindings b where
  same hnot := by
    have henter : (l.enterTurn t).bindings.get? a = t.env.bindings.get? a := by
      refine get?_enter_of_ne ha (fun other hother heq => ?_) t.entry
      have hnames : a ∈ (l.iteration t).names := by
        rw [heq]
        exact List.mem_append_right _ (List.mem_map_of_mem hother)
      obtain ⟨s, hs, htouches⟩ := exists_touches_turn hne hnames
      exact hnot s hs htouches
    rw [List.forall_mem_map] at hnot
    rw [h.same fun s hs htouches => hnot s hs (Start.touches_inside_iff.2 (.inl htouches)), henter]
  gone halias hexists := by
    have hinner {s : Start} (hs : (s.inside (l.iteration t)).Rebinds a) : s.Rebinds a :=
      (Start.rebinds_inside_iff.1 hs).resolve_right ha
    rw [List.forall_mem_map] at halias
    obtain ⟨_, hmem, hrebinds⟩ := hexists
    obtain ⟨s, hs, rfl⟩ := List.mem_map.1 hmem
    exact h.gone
      (fun s hs htouches => hinner (halias s hs (Start.touches_inside_iff.2 (.inl htouches))))
      ⟨s, hs, hinner hrebinds⟩

variable (hbody : body.Sparing a starts) (hne : ∀ env, starts env ≠ [])

include hbody hne

/-- Entries of a loop that does not have the name for an alias. -/
lemma spares_entries (ha : a ∉ l.aliases) (contributed : Bool) (entries : List Entry) (env : Env)
    (hok : (l.runEntries body contributed entries env).result.isOk = true) :
    Spares a (l.starts starts (l.entryTurns body entries env)) env.bindings
      (l.runEntries body contributed entries env).env.bindings := by
  induction entries generalizing contributed env with
  | nil => exact .nil rfl
  | cons entry rest ih =>
      have hend := hbody.atEnd (l.enter entry env)
      rcases h : body (l.enter entry env) with ⟨written, env', e | taken⟩
      · rw [(runEntries_of_error h contributed rest).2] at hok
        cases hok
      · rw [h] at hend
        obtain ⟨now, henv, hresult⟩ := exists_runEntries_cons h contributed rest
        rw [hresult] at hok
        rw [henv, Loop.starts, entryTurns, List.flatMap_cons]
        have hlater := ih now env' hok
        simp only [Run.onward, h]
        exact (spares_turn hne ha ⟨entry, env⟩ (hend rfl)).append hlater

/-- The end of a loop in which all entries have been run. -/
lemma spares_leave {entries : List Entry} {env env' : Env} {written : List Text}
    (hentries : entries ≠ [])
    (hrun : l.runEntries body false entries env = ⟨written, env', .ok ()⟩) :
    Spares a (l.starts starts (l.entryTurns body entries env)) env.bindings
      (l.leave env').bindings := by
  by_cases ha : a ∈ l.aliases
  · -- the alias is unbound, and it was bound when the first turn came
    have hnone : (l.leave env').bindings.get? a = none := by
      rw [get?_leave, if_pos ha]
    refine ⟨fun hnot => ?_, fun _ _ => hnone⟩
    obtain ⟨entry, rest, rfl⟩ := List.exists_cons_of_ne_nil hentries
    have hnames : a ∈ (l.iteration ⟨entry, env⟩).names := List.mem_append_left _ ha
    obtain ⟨s, hs, htouches⟩ := exists_touches_turn hne hnames
    rw [Loop.starts, entryTurns, List.flatMap_cons] at hnot
    exact absurd htouches (hnot s (List.mem_append_left _ hs))
  · have hleave : (l.leave env').bindings.get? a = env'.bindings.get? a := by
      rw [get?_leave, if_neg ha]
    have hspares := spares_entries hbody hne ha false entries env (by rw [hrun]; rfl)
    rw [hrun] at hspares
    exact ⟨fun hnot => hleave.trans (hspares.same hnot),
      fun halias hexists => hleave.trans (hspares.gone halias hexists)⟩

/-- **A loop** leaves a name alone if its entries do, and unbinds it if it is an alias. -/
theorem sparing_run (node : Node) : (l.run body).Sparing a fun env =>
    ⟨node, env.bindings, []⟩ :: l.starts starts (l.turns body env) := by
  refine .alone (fun env s hs => ?_) fun env hok => .cons ?_
  · obtain ⟨t, -, hs⟩ := List.mem_flatMap.1 hs
    obtain ⟨inner, -, rfl⟩ := List.mem_map.1 hs
    exact List.append_ne_nil_of_right_ne_nil _ (List.cons_ne_nil _ _)
  · rcases h : env.bindings.evalEntries l.collection with e | entries
    · simp only [run, Bind.bind, Run.bind, Run.ofBindings, h] at hok
      cases hok
    · rw [turns_of_entries h]
      by_cases hentries : entries = []
      · subst hentries
        simp only [run, Bind.bind, Run.bind, Run.ofBindings, h]
        exact .nil rfl
      · rw [run_of_entries h hentries] at hok ⊢
        rcases hrun : l.runEntries body false entries env with ⟨written, env', e | x⟩
        · rw [hrun] at hok
          cases hok
        · exact spares_leave hbody hne hentries hrun

end Loop

/-! ### Nodes -/

namespace Node

variable {a : Text}

/-- Text may bind a scalar parameter. -/
lemma sparing_runText (content : Text) (filter : Option Pattern) :
    (runText content filter).Sparing a fun env => [⟨text content filter, env.bindings, []⟩] := by
  refine .alone (fun _ _ => nofun) fun env _ => .single fun hnot => ?_
  unfold runText
  by_cases hdynamic : isDynamicText content = true
  · have hscalar : (bindScalar env.bindings).get? a = env.bindings.get? a := by
      unfold bindScalar
      split
      · next hparameter =>
        rw [Table.get?_insert, if_neg]
        rintro rfl
        exact hnot (.inr ⟨rfl, by simp [Start.bindsScalar, hdynamic, hparameter]⟩)
      · rfl
    rw [if_pos hdynamic, ← hscalar]
    simp only [Bind.bind, Run.bind, Run.modifyBindings, Run.ofBindings]
    rcases spliced (bindScalar env.bindings) filter content with e | sql <;> rfl
  · rw [if_neg hdynamic]
    rfl

/-- A guard starts its body if the test is true. -/
lemma sparing_runGuard (test : Text) (body : Node) {starts : Env → List Start}
    (hbody : body.run.Sparing a starts) :
    (runGuard test body.run).Sparing a (guardStarts test body starts) := by
  refine .headed (guard test body) (.bind_quiet (.of_same fun _ => rfl) fun holds => ?_)
  cases holds with
  | true => exact hbody.bind_last fun _ => .pure true
  | false => exact .pure false

/-- Trimming changes what is written only. -/
lemma sparing_runTrim (rule : TrimRule) {body : Run Bool} {starts : Env → List Start}
    (hbody : body.Sparing a starts) : (runTrim rule body).Sparing a starts where
  untilStart := hbody.untilStart
  atEnd env hok := by
    rw [result_runTrim] at hok
    rw [env_runTrim]
    exact hbody.atEnd env hok

/-- Binding another name. -/
lemma sparing_runBind {name : Text} (hname : a ≠ name) (value : Text) :
    (runBind name value).Sparing a fun env => [⟨bind name value, env.bindings, []⟩] := by
  refine .alone (fun _ _ => nofun) fun env _ => .single fun _ => ?_
  simp only [runBind, Bind.bind, Run.bind, Run.ofBindings, Run.bindName, Run.modifyBindings]
  rcases env.bindings.eval value with e | v
  · rfl
  · change (env.bindings.insert name v).get? a = _
    rw [Table.get?_insert, if_neg hname]

mutual

/-- **Every node** does with a name what its starts say, if no node in it binds the name. -/
theorem sparing_run : (node : Node) → (∀ value, bind a value ∉ node.parts) →
    node.run.Sparing a node.starts
  | text content filter, _ => by
      unfold run starts
      exact sparing_runText content filter
  | guard test body, h => by
      unfold run starts
      exact sparing_runGuard test body
        (sparing_run body fun value hmem => h value (List.mem_cons_of_mem _ hmem))
  | choose branches otherwise, h => by
      unfold run starts
      refine .headed _ (sparing_runBranches branches (fun value hmem => h value ?_)
        (sparing_runOption otherwise fun value hmem => h value ?_))
      · exact List.mem_cons_of_mem _ (List.mem_append_left _ hmem)
      · exact List.mem_cons_of_mem _ (List.mem_append_right _ hmem)
  | loop l body, h => by
      unfold run starts
      exact Loop.sparing_run
        (sparing_run body fun value hmem => h value (List.mem_cons_of_mem _ hmem))
        body.starts_ne_nil _
  | trim rule body, h => by
      unfold run starts
      exact .headed _ (sparing_runTrim rule
        (sparing_run body fun value hmem => h value (List.mem_cons_of_mem _ hmem)))
  | bind name value, h => by
      unfold run starts
      refine sparing_runBind (fun heq => h value ?_) value
      rw [heq]
      exact List.mem_cons_self
  | mixed children, h => by
      unfold run starts
      exact .headed _ (sparing_runAll children fun value hmem =>
        h value (List.mem_cons_of_mem _ hmem))

/-- Several nodes. -/
theorem sparing_runAll : (children : List Node) → (∀ value, bind a value ∉ listParts children) →
    (runAll children).Sparing a (listStarts children)
  | [], _ => by
      unfold runAll listStarts
      exact .pure true
  | child :: rest, h => by
      unfold runAll listStarts
      exact (sparing_run child fun value hmem => h value (List.mem_append_left _ hmem)).bind
        fun _ => sparing_runAll rest fun value hmem => h value (List.mem_append_right _ hmem)

/-- Branches. -/
theorem sparing_runBranches : (branches : List (Text × Node)) →
    (∀ value, bind a value ∉ branchParts branches) → {otherwise : Run Bool} →
    {starts : Env → List Start} → otherwise.Sparing a starts →
    (runBranches branches otherwise).Sparing a (branchStarts branches starts)
  | [], _, _, _, hotherwise => by
      unfold runBranches branchStarts
      exact hotherwise
  | (test, body) :: rest, h, otherwise, starts, hotherwise => by
      have hbody := sparing_run body fun value hmem => h value (List.mem_append_left _ hmem)
      unfold runBranches branchStarts
      refine (sparing_runGuard test body hbody).bind fun taken => ?_
      cases taken with
      | true => exact .pure true
      | false =>
          exact sparing_runBranches rest (fun value hmem => h value (List.mem_append_right _ hmem))
            hotherwise

/-- An optional node. -/
theorem sparing_runOption : (node? : Option Node) → (∀ value, bind a value ∉ optionParts node?) →
    (runOption node?).Sparing a (optionStarts node?)
  | none, _ => by
      unfold runOption optionStarts
      exact .pure false
  | some node, h => by
      unfold runOption optionStarts
      exact (sparing_run node h).bind_last fun _ => .pure true

end

end Node

end DynamicSql
