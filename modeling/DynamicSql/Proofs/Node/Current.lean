import DynamicSql.Proofs.Node.Loop
import DynamicSql.Proofs.Node.Renaming
import DynamicSql.Proofs.Node.Sparing

/-!
# The current entry of a loop

The alias of a loop stands for the value of the current entry at every node that is started directly
in the body, until a nested loop with the same alias is run. Such a loop unbinds the alias at its
end, and what comes behind it in the same turn finds nothing.

* `Loop.get?_run_turn`: the name for the entry stands for its value when the loop has been run.
* `denotes_of_unshared`: a loop whose alias no nested loop has.
* `item_current`: what tests, substitutions and placeholders in the body have for the alias.
* `item_not_current`: text behind a nested loop with the same alias.
-/

namespace DynamicSql

namespace Loop

variable {l : Loop} {a : Text} {body : Run Bool}

/-! ## The name for an entry -/

/-- The alias and the name for the entry stand for the value when the turn of the entry comes. -/
lemma get?_enterTurn (hitem : l.item = some a) (t : Turn) :
    (l.enterTurn t).bindings.get? a = some t.entry.item ∧
      (l.enterTurn t).bindings.get? (syntheticName a t.env.counter) = some t.entry.item := by
  simp [enterTurn, enter, hitem, Bindings.bindAlias, Table.get?_insert, ne_syntheticName]

section framed

variable {bound aliases : List Text} {texts : Env → List TextRun} (hl : l.aliases ⊆ aliases)

include hl

/-- The name for an entry is not changed by a run that draws later ids, unless the tree names it. -/
lemma not_changeable_entry {first next id : Nat} (hbound : syntheticName a id ∉ bound)
    (haliases : syntheticName a id ∉ aliases) (hid : id < first) :
    ¬ Changeable (bound ++ l.aliases) aliases first next (syntheticName a id) := by
  intro hc
  generalize hname : syntheticName a id = name at hc hbound haliases
  cases hc with
  | ofBind h => exact (List.mem_append.1 h).elim hbound fun hmem => haliases (hl hmem)
  | ofAlias h => exact haliases h
  | ofEntry h hfirst hnext =>
      obtain ⟨-, rfl⟩ := syntheticName_inj_iff.1 hname
      omega
  | ofValue => exact syntheticName_ne_of_not_reserved (by decide) a id hname

variable (hbody : body.Framed (bound ++ l.aliases) aliases texts) (hitem : l.item = some a)

include hbody hitem

/-- The name for an entry stands for its value when all entries have been run, or one has failed. -/
lemma get?_runEntries_turn (contributed : Bool) (entries : List Entry) (env : Env) :
    ∀ t ∈ l.entryTurns body entries env, syntheticName a t.env.counter ∉ bound →
      syntheticName a t.env.counter ∉ aliases →
      (l.runEntries body contributed entries env).env.bindings.get?
        (syntheticName a t.env.counter) = some t.entry.item := by
  induction entries generalizing contributed env with
  | nil => nofun
  | cons entry rest ih =>
      intro t ht hbound haliases
      have hframe := hbody (l.enter entry env)
      -- the body of the turn draws later ids
      have hturn (h : t = ⟨entry, env⟩) :
          (body (l.enter entry env)).env.bindings.get? (syntheticName a t.env.counter) =
            some t.entry.item := by
        subst h
        rw [hframe.same _ (not_changeable_entry hl hbound haliases (Nat.lt_succ_self _))]
        exact (get?_enterTurn hitem _).2
      rcases h : body (l.enter entry env) with ⟨written, env', e | taken⟩
      · rw [h] at hturn
        simp only [entryTurns, Run.onward, h, List.mem_singleton] at ht
        rw [(runEntries_of_error h contributed rest).1]
        exact hturn ht
      · rw [h] at hframe hturn
        obtain ⟨now, henv, -⟩ := exists_runEntries_cons h contributed rest
        simp only [entryTurns, Run.onward, h, List.mem_cons] at ht
        rw [henv]
        rcases ht with rfl | ht
        · -- and so do the later turns
          have hcounter : env.counter < env'.counter := hframe.counter
          have hlater := framed_runEntries hl hbody now rest env'
          rw [hlater.same _ (not_changeable_entry hl hbound haliases hcounter)]
          exact hturn rfl
        · exact ih now env' t ht hbound haliases

/-- **The name for an entry** stands for its value when the loop has been run. -/
theorem get?_run_turn {env : Env} {t : Turn} (ht : t ∈ l.turns body env)
    (hbound : syntheticName a t.env.counter ∉ bound)
    (haliases : syntheticName a t.env.counter ∉ aliases) :
    (l.run body env).env.bindings.get? (syntheticName a t.env.counter) = some t.entry.item := by
  rcases h : env.bindings.evalEntries l.collection with e | entries
  · simp only [turns, Run.onward, Run.ofBindings, h] at ht
    cases ht
  · rw [turns_of_entries h] at ht
    have hne : entries ≠ [] := by
      rintro rfl
      cases ht
    have hentries := get?_runEntries_turn hl hbody hitem false entries env t ht hbound haliases
    rw [run_of_entries h hne]
    rcases hrun : l.runEntries body false entries env with ⟨written, env', e | x⟩
    · rw [hrun] at hentries
      exact hentries
    · rw [hrun] at hentries
      change (l.leave env').bindings.get? _ = _
      rw [get?_leave, if_neg fun hmem => haliases (hl hmem)]
      exact hentries

end framed

end Loop

/-! ## What is written in the body -/

/-- Whether a name stands for a value, and what leads on from the name for what leads on from the
value, in tests and also in substitutions. -/
structure Bindings.Denotes (b : Bindings) (a : Text) (v : Value) : Prop where
  /-- The name stands for the value. -/
  find : b.find? a = some v
  /-- So it does in tests. -/
  test : isIdentifier a = true → ∀ path : Path, path.isValid = true →
    b.eval (a ++ path.text) = path.follow v
  /-- And it does in substitutions, unless it is the name of a scalar parameter. -/
  substitution : (a = Node.valueName → b.parameter.isScalar = false) → isIdentifier a = true →
    ∀ path : Path, path.isValid = true →
      (Node.bindScalar b).eval (a ++ path.text) = path.follow v

/-- A name that is bound stands for its value. -/
lemma Bindings.denotes_of_get? {b : Bindings} {a : Text} {v : Value} (h : b.get? a = some v) :
    b.Denotes a v := by
  have hvalue {b : Bindings} (h : b.get? a = some v) : b.find? a = some v ∧ b.value a = v := by
    rw [Bindings.value, Bindings.find?, h]
    exact ⟨rfl, rfl⟩
  refine ⟨(hvalue h).1, fun hname path hpath => ?_, fun hscalar hname path hpath => ?_⟩
  · rw [b.eval_path hname hpath, (hvalue h).2]
  · have hget : (Node.bindScalar b).get? a = some v := by
      unfold Node.bindScalar
      split
      · next hparameter =>
        rw [Table.get?_insert, if_neg, h]
        intro heq
        rw [hscalar heq] at hparameter
        cases hparameter
      · exact h
    rw [Bindings.eval_path _ hname hpath, (hvalue hget).2]

namespace Node

/-- The alias at a start directly in the body, by the starts before it. -/
lemma spares_turn {l : Loop} {a : Text} {body : Node} (hbind : ∀ value, bind a value ∉ body.parts)
    {t : Turn} {before after : List Start} {s : Start}
    (hsplit : body.starts (l.enterTurn t) = before ++ s :: after) (hwithin : s.within = []) :
    Spares a before (l.enterTurn t).bindings s.bindings :=
  (sparing_run body hbind).untilStart _ before s after hsplit hwithin

/-- A loop whose alias no nested loop has keeps it throughout its body. -/
theorem denotes_of_unshared {l : Loop} {a : Text} (hitem : l.item = some a) {body : Node}
    (hbind : ∀ value, bind a value ∉ body.parts) (hshared : a ∉ loopAliases body.parts)
    (hreserved : isReserved a = false) (hvalue : a ≠ valueName) {t : Turn} {s : Start}
    (hs : s ∈ body.starts (l.enterTurn t)) (hwithin : s.within = []) :
    s.bindings.Denotes a t.entry.item := by
  obtain ⟨before, after, hsplit⟩ := List.append_of_mem hs
  have hspares := spares_turn hbind hsplit hwithin
  apply Bindings.denotes_of_get?
  rw [hspares.same, (Loop.get?_enterTurn hitem t).1]
  intro s' hs'
  have hmem : s' ∈ body.starts (l.enterTurn t) := by
    rw [hsplit]
    exact List.mem_append_left _ hs'
  exact not_touches hshared hreserved hvalue hmem

/-- **The alias of a loop stands for the value of the current entry.** No node in the body binds the
alias. The turns are those of the entries, in order. When a node directly in the body is started in
the turn of an entry, the alias stands for the value of the entry if no nested loop has bound it
before in this turn, and no text as the name of a scalar parameter; and if nested loops that have it
for an alias were the only ones to bind it, then it is unbound. A reference to the alias in a
placeholder is renamed to one to the name for the entry, which leads on from the same value when the
loop has been run in any context, unless the tree itself has that name. -/
theorem item_current {l : Loop} {a : Text} (hitem : l.item = some a) (body : Node)
    (hbind : ∀ value, bind a value ∉ body.parts) {σ : Type} (append : σ → Text → σ) (sql : σ)
    (env : Env) :
    let turns := l.turns body.run env
    let o := (loop l body).runIn append (sql, env)
    (∀ entries, env.bindings.evalEntries l.collection = .ok entries →
        turns.map (·.entry) <+: entries ∧
          (o.1.isOk = true → turns.map (·.entry) = entries)) ∧
      ∀ t ∈ turns,
        (∀ before s after, body.starts (l.enterTurn t) = before ++ s :: after → s.within = [] →
          ((∀ s' ∈ before, ¬ s'.Touches a) → s.bindings.Denotes a t.entry.item) ∧
            ((∀ s' ∈ before, s'.Touches a → s'.Rebinds a) → (∃ s' ∈ before, s'.Rebinds a) →
              s.bindings.get? a = none)) ∧
          (isIdentifier a = true →
            syntheticName a t.env.counter ∉ boundNames (loop l body).parts →
            syntheticName a t.env.counter ∉ loopAliases (loop l body).parts →
            ∀ r : Reference, r.isValid a = true →
              let content := r.content (syntheticName a t.env.counter)
              l.renameContent t.env.counter (r.content a) = content ∧
                (Placeholder.bound o.2.2.bindings content).map (·.2) =
                  (r.path.follow t.entry.item).mapError .eval) := by
  intro turns o
  have hrun : o = (l.run body.run).into append (sql, env) := by
    simp only [o, runIn_eq, run]
  refine ⟨fun entries hentries => ?_, fun t ht => ⟨fun before s after hsplit hwithin => ?_, ?_⟩⟩
  · rw [hrun]
    exact Loop.entries_turns hentries
  · have hspares := spares_turn hbind hsplit hwithin
    refine ⟨fun hnot => Bindings.denotes_of_get? ?_, hspares.gone⟩
    rw [hspares.same hnot]
    exact (Loop.get?_enterTurn hitem t).1
  · intro hname hbound haliases r hvalid content
    have hname' : Text.isName a = true := by
      rw [isIdentifier, Bool.and_eq_true] at hname
      exact hname.1
    have hwithin := NamedWithin.self (loop l body).parts
    have hl : l.aliases ⊆ loopAliases (loop l body).parts :=
      hwithin.aliases l body List.mem_cons_self
    have hbody := framed_run body ((hwithin.mono (List.subset_cons_self _ _)).append l.aliases)
    have hkept := Loop.get?_run_turn hl hbody hitem ht hbound haliases
    rw [hrun]
    exact ⟨Loop.renameContent_content hitem hname' hvalid _,
      Reference.bound_content (isIdentifier_syntheticName hname' _) hname' hvalid hkept⟩

/-- A loop over the value of the entry, under another alias, before a test of the value. The second
group is empty, so its test is false. -/
theorem item_current_groups :
    let x : Text := "x".toList
    let l : Loop := { collection := "groups".toList, item := some x }
    let inner : Loop := { collection := x, item := some "y".toList }
    let body : Node := .mixed [.loop inner (.plain "#\x7by\x7d".toList),
      .guard x (.plain "#\x7bx\x7d".toList)]
    let groups : List Value := [.array [.integer 7], .array []]
    let env : Env := ⟨Bindings.ofCall (.object [("groups".toList, .array groups)]) none, 0⟩
    let turns := l.turns body.run env
    let o := (loop l body).runIn Fragment.append ([], env)
    (∀ value, bind x value ∉ body.parts) ∧ turns.map (·.entry.item) = groups ∧
      ∀ t ∈ turns,
        (∀ s ∈ body.starts (l.enterTurn t), s.within = [] → s.bindings.Denotes x t.entry.item) ∧
          (Placeholder.bound o.2.2.bindings (syntheticName x t.env.counter)).map (·.2) =
            .ok t.entry.item := by
  intro x l inner body groups env turns o
  have hbind : ∀ value, bind x value ∉ body.parts := by
    intro value hmem
    simp [body, parts, listParts, plain] at hmem
  have hgroups : Expr.parse l.collection = .ok (.ref "groups".toList) := Path.parse_name (by decide)
  have hx : Expr.parse x = .ok (.ref x) := Path.parse_name (by decide)
  have hentries : env.bindings.evalEntries l.collection = .ok (Entry.ofItems 0 groups) := by
    rw [Bindings.evalEntries, Bindings.eval, hgroups]
    rfl
  have hok : o.1.isOk = true := by
    simp only [o, runIn_eq, Run.into, body, l, inner, run, runAll, runGuard, Loop.run,
      Bindings.evalTruth, Bindings.evalEntries, Bindings.eval, hgroups, hx]
    decide +kernel
  obtain ⟨hturns, hall⟩ := item_current (l := l) rfl body hbind Fragment.append [] env
  have hmap : turns.map (·.entry) = Entry.ofItems 0 groups := (hturns _ hentries).2 hok
  refine ⟨hbind, ?_, fun t ht => ?_⟩
  · have hitems := congrArg (List.map Entry.item) hmap
    rw [List.map_map] at hitems
    exact hitems
  obtain ⟨-, hplaceholder⟩ := hall t ht
  constructor
  · -- the alias of the nested loop is another one
    intro s hs hwithin
    exact denotes_of_unshared rfl hbind (by decide) (by decide) (by decide) hs hwithin
  · have hnames : ∀ name ∈ boundNames (loop l body).parts, isReserved name = false := by decide
    have haliases : ∀ name ∈ loopAliases (loop l body).parts, isReserved name = false := by decide
    obtain ⟨-, hbound⟩ := hplaceholder (by decide)
      (fun hmem => syntheticName_ne_of_not_reserved (hnames _ hmem) x _ rfl)
      (fun hmem => syntheticName_ne_of_not_reserved (haliases _ hmem) x _ rfl)
      ⟨[], []⟩ (by decide)
    have hcontent : (⟨[], []⟩ : Reference).content (syntheticName x t.env.counter) =
        syntheticName x t.env.counter := by
      simp [Reference.content, Path.text]
    rw [hcontent] at hbound
    exact hbound

/-- The alias does not stand for the value behind a nested loop with the same alias: that loop
unbinds it, and the parameter has no field of that name. -/
theorem item_not_current :
    ¬ ∀ (l : Loop) (a : Text) (body : Node), l.item = some a →
      (∀ value, bind a value ∉ body.parts) → ∀ env, ∀ t ∈ l.turns body.run env,
        ∀ s ∈ body.starts (l.enterTurn t), s.within = [] →
          s.bindings.parameter.isScalar = false → s.bindings.find? a = some t.entry.item := by
  intro h
  let x : Text := "x".toList
  let l : Loop := { collection := "rows".toList, item := some x }
  let inner : Loop := { collection := x, item := some x }
  let fragment : Text := "#\x7bx\x7d".toList
  let last : Node := .plain "n = $\x7bx\x7d".toList
  let body : Node := .mixed [.loop inner (.plain fragment), last]
  let row : Value := .array [.integer 7]
  let env : Env := ⟨Bindings.ofCall (.object [("rows".toList, .array [row])]) none, 0⟩
  let t : Turn := ⟨⟨Eval.count 0, row⟩, env⟩
  -- what the nested loop leaves behind in the turn of the row
  let left : Bindings :=
    (Loop.bindEntries x (l.enterTurn t).bindings 1 [.integer 7]).erase x
  have hx : Expr.parse x = .ok (.ref x) := Path.parse_name (by decide)
  have hrows : Expr.parse l.collection = .ok (.ref "rows".toList) := Path.parse_name (by decide)
  have hbind : ∀ value, bind x value ∉ body.parts := by
    intro value hmem
    simp [body, last, parts, listParts, plain] at hmem
  have hturns : t ∈ l.turns body.run env := by
    have hentries : env.bindings.evalEntries l.collection = .ok (Entry.ofItems 0 [row]) := by
      rw [Bindings.evalEntries, Bindings.eval, hrows]
      rfl
    rw [Loop.turns_of_entries hentries]
    exact List.mem_cons_self
  have hstart : (⟨last, left, []⟩ : Start) ∈ body.starts (l.enterTurn t) := by
    have hcut : Text.cut? Delimiters.placeholder.opening fragment = some ([], "x\x7d".toList) := by
      decide
    have hcontent : Delimiters.placeholder.content? "x\x7d".toList = some (x, []) := by
      decide +kernel
    have hrefers : RefersTo x fragment [⟨[], []⟩] :=
      { escape := by decide
        terminated := .token hcut rfl hcontent (.plain rfl)
        tokens := by decide +kernel
        nonempty := by decide
        valid := by decide }
    have htext (env : Env) : (plain fragment).run env = ⟨[fragment], env, .ok true⟩ := by
      have hstatic : isDynamicText fragment = false := by decide +kernel
      rw [plain, run, runText, hstatic]
      rfl
    have hblank (id : Nat) : Text.allBlank (inner.renameFragment id fragment) = false :=
      Loop.allBlank_renameFragment rfl (by decide) hrefers id
    have hitems : (l.enterTurn t).bindings.evalEntries x =
        .ok (Entry.ofItems 0 [.integer 7]) := by
      rw [Bindings.evalEntries, Bindings.eval, hx]
      rfl
    have hinner := Loop.run_text (l := inner) rfl rfl htext hblank hitems (by decide) 1
    have hrun : (loop inner (plain fragment)).run (l.enterTurn t) =
        inner.run (plain fragment).run ⟨(l.enterTurn t).bindings, 1⟩ := by
      rw [run]
      rfl
    simp only [body, starts, listStarts, Run.onward, hrun, hinner]
    apply List.mem_cons_of_mem
    apply List.mem_append_right
    exact List.mem_append_left _ List.mem_cons_self
  have hfind := h l x body rfl hbind env t hturns _ hstart rfl (by decide)
  have hnone : left.find? x = none := by decide
  rw [hnone] at hfind
  cases hfind

end Node

end DynamicSql
