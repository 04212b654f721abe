import DynamicSql.Proofs.Node.Loop
import DynamicSql.Proofs.Node.Starts

/-!
# Separated entries

An entry of a loop may write anything, nothing or white space only. A loop puts its separator
between those entries that write more than white space: right before what such an entry has to show,
and only if an earlier entry had something to show.

* `Loop.layout`: where the fragments of the entries and the separators stand.
* `Loop.runEntries_layout`: this is what the run of the entries writes.
* `Loop.count_layout`, `Loop.layout_split`: how many separators there are, and what stands around
  each.
* `Node.run_separated`: the main statement.
-/

namespace DynamicSql

namespace Loop

/-! ## Fragments and separators -/

/-- A part of what a loop writes between its opening and its closing. -/
inductive Part
  /-- A fragment of an entry. -/
  | fragment (s : Text)
  /-- The separator. -/
  | separator
  deriving DecidableEq

/-- The fragments that are written for a part, if the loop has a separator and if it has none. -/
def Part.fragments (separator? : Option Text) : Part → List Text
  | fragment s => [s]
  | separator => separator?.toList

/-- What is written for an entry behind earlier ones. The separator stands before the first fragment
that is not blank, if there is one and if there was one in an earlier entry. -/
def entryLayout (earlier : List (List Text)) (fragments : List Text) : List Part :=
  (fragments.takeWhile Text.allBlank).map .fragment ++
    ((if contributes fragments && earlier.any contributes then [.separator] else []) ++
      (fragments.dropWhile Text.allBlank).map .fragment)

/-- What is written for entries in a row, behind earlier ones. -/
def layout (earlier : List (List Text)) : List (List Text) → List Part
  | [] => []
  | fragments :: rest => entryLayout earlier fragments ++ layout (earlier ++ [fragments]) rest

lemma contributes_cons (f : Text) (rest : List Text) :
    contributes (f :: rest) = (!Text.allBlank f || contributes rest) := rfl

/-- One entry more behind earlier ones. -/
lemma any_contributes_concat (earlier : List (List Text)) (fragments : List Text) :
    (earlier ++ [fragments]).any contributes =
      (earlier.any contributes || contributes fragments) := by
  rw [List.any_append, List.any_cons, List.any_nil, Bool.or_false]

/-- The fragments of an entry that contributes, from the first that is not blank. -/
lemma dropWhile_of_contributes {fragments : List Text} (h : contributes fragments = true) :
    ∃ f rest, fragments.dropWhile Text.allBlank = f :: rest ∧ Text.allBlank f = false := by
  induction fragments with
  | nil => cases h
  | cons f rest ih =>
      rw [List.dropWhile_cons]
      split
      · next hblank =>
        rw [contributes_cons, hblank] at h
        exact ih h
      · next hblank => exact ⟨f, rest, rfl, Bool.not_eq_true _ ▸ hblank⟩

/-- Fragments with a separator before the first that is not blank. -/
lemma separated_eq (separator : Text) (fragments : List Text) :
    separated separator fragments = fragments.takeWhile Text.allBlank ++
      ((if contributes fragments then [separator] else []) ++
        fragments.dropWhile Text.allBlank) := by
  induction fragments with
  | nil => rfl
  | cons f rest ih =>
      rw [separated, List.takeWhile_cons, List.dropWhile_cons, contributes_cons]
      by_cases hblank : Text.allBlank f = true
      · simp only [hblank, if_true, ih, Bool.not_true, Bool.false_or, List.cons_append]
      · simp [hblank]

/-- The fragments of a layout. -/
lemma flatMap_map_fragment (separator? : Option Text) (fragments : List Text) :
    (fragments.map Part.fragment).flatMap (Part.fragments separator?) = fragments := by
  simp [List.flatMap_map, Part.fragments, List.flatMap_singleton']

/-- **The fragments of an entry** are written as they are laid out. -/
lemma entryFragments_eq_layout (l : Loop) (earlier : List (List Text)) (id : Nat)
    (fragments : List Text) :
    l.entryFragments (earlier.any contributes) id fragments =
      (entryLayout earlier (fragments.map (l.renameFragment id))).flatMap
        (Part.fragments l.separator) := by
  rw [Node.entryFragments_eq]
  generalize fragments.map (l.renameFragment id) = fragments
  rw [entryLayout, List.flatMap_append, List.flatMap_append, flatMap_map_fragment,
    flatMap_map_fragment]
  cases earlier.any contributes <;> cases l.separator <;> cases hc : contributes fragments <;>
    simp [separated_eq, hc, Part.fragments]

/-! ## The run of the entries -/

/-- What the body writes in a turn, as it leaves the loop. -/
def turnFragments (l : Loop) (body : Run Bool) (t : Turn) : List Text :=
  (body (l.enterTurn t)).written.map (l.renameFragment t.env.counter)

/-- **The run of entries** writes what the turns contribute, laid out behind what earlier ones have
written. -/
theorem runEntries_layout {l : Loop} {body : Run Bool} (earlier : List (List Text))
    (entries : List Entry) (env : Env)
    (hbody : ∀ t ∈ l.entryTurns body entries env, (body (l.enterTurn t)).result.isOk = true) :
    (l.runEntries body (earlier.any contributes) entries env).written =
        (layout earlier ((l.entryTurns body entries env).map (l.turnFragments body))).flatMap
          (Part.fragments l.separator) ∧
      (l.runEntries body (earlier.any contributes) entries env).result = .ok () := by
  induction entries generalizing earlier env with
  | nil => exact ⟨rfl, rfl⟩
  | cons entry rest ih =>
      have hentry := runEntry_eq l body (earlier.any contributes) entry env
      rw [entryTurns, List.forall_mem_cons] at hbody
      obtain ⟨hfirst, hrest⟩ := hbody
      rw [enterTurn] at hfirst
      rcases h : body (l.enter entry env) with ⟨written, env', e | taken⟩
      · rw [h] at hfirst
        cases hfirst
      · have hturn : l.turnFragments body ⟨entry, env⟩ =
            written.map (l.renameFragment env.counter) := by
          rw [turnFragments, enterTurn, h]
        -- the flag that the run hands on says what this turn adds to the earlier ones
        have hearlier : (earlier ++ [l.turnFragments body ⟨entry, env⟩]).any contributes =
            (earlier.any contributes ||
              contributes (l.entryFragments (earlier.any contributes) env.counter written)) := by
          rw [Node.contributes_entryFragments, hturn, any_contributes_concat]
        simp only [h, Except.map] at hentry
        simp only [Run.onward, h] at hrest
        obtain ⟨hwritten, hresult⟩ := ih (earlier ++ [l.turnFragments body ⟨entry, env⟩]) env' hrest
        rw [hearlier] at hwritten hresult
        simp only [entryTurns, Run.onward, h, List.map_cons, layout, List.flatMap_append]
        rw [← hwritten, hturn, ← entryFragments_eq_layout]
        simp only [runEntries, bind, Run.bind, hentry, hresult, and_self]

/-- **The run of a loop whose body succeeds** in every turn. -/
theorem run_layout {l : Loop} {body : Run Bool} {env : Env} {entries : List Entry}
    (hentries : env.bindings.evalEntries l.collection = .ok entries)
    (hbody : ∀ t ∈ l.turns body env, (body (l.enterTurn t)).result.isOk = true) :
    (l.run body env).written = (if entries.isEmpty then []
        else l.opening.toList ++
          ((layout [] ((l.turns body env).map (l.turnFragments body))).flatMap
            (Part.fragments l.separator) ++ l.closing.toList)) ∧
      (l.run body env).result = .ok true := by
  by_cases hne : entries = []
  · subst hne
    rw [run_nil hentries]
    exact ⟨rfl, rfl⟩
  · rw [turns_of_entries hentries] at hbody ⊢
    obtain ⟨hwritten, hresult⟩ := runEntries_layout [] entries env hbody
    rw [run_of_entries hentries hne, List.isEmpty_eq_false_iff.2 hne, ← hwritten]
    change (l.runEntries body false entries env).result = _ at hresult
    rw [List.any_nil, if_neg Bool.false_ne_true]
    rcases hrun : l.runEntries body false entries env with ⟨written, env', e | done⟩
    · rw [hrun] at hresult
      cases hresult
    · exact ⟨rfl, rfl⟩

/-! ## Where separators stand -/

variable {earlier : List (List Text)} {fragments : List Text}

/-- There is at most one separator for an entry. -/
lemma count_entryLayout (earlier : List (List Text)) (fragments : List Text) :
    (entryLayout earlier fragments).count .separator =
      if contributes fragments && earlier.any contributes then 1 else 0 := by
  have hzero (fragments : List Text) : (fragments.map Part.fragment).count .separator = 0 :=
    List.count_eq_zero.2 (by simp)
  rw [entryLayout, List.count_append, List.count_append, hzero, hzero]
  split <;> rfl

/-- **The number of separators** is that of the entries that contribute, without the first. -/
theorem count_layout (earlier written : List (List Text)) :
    (layout earlier written).count .separator =
      if earlier.any contributes then written.countP contributes
      else written.countP contributes - 1 := by
  induction written generalizing earlier with
  | nil => simp [layout]
  | cons fragments rest ih =>
      rw [layout, List.count_append, count_entryLayout, ih, any_contributes_concat,
        List.countP_cons]
      cases contributes fragments <;> cases earlier.any contributes <;> simp [Nat.add_comm]

/-- A fragment of an entry has its place in the layout. -/
lemma fragment_mem_entryLayout (earlier : List (List Text)) {f : Text} (hf : f ∈ fragments) :
    Part.fragment f ∈ entryLayout earlier fragments := by
  rw [← List.takeWhile_append_dropWhile (p := Text.allBlank) (l := fragments)] at hf
  rcases List.mem_append.1 hf with hf | hf <;> simp [entryLayout, hf]

/-- The separator of an entry stands before a fragment that is not blank, and only behind entries
that contribute. -/
lemma entryLayout_split {before behind : List Part}
    (h : entryLayout earlier fragments = before ++ .separator :: behind) :
    earlier.any contributes = true ∧
      ∃ f rest, behind = .fragment f :: rest ∧ Text.allBlank f = false := by
  have hnone (fragments : List Text) : Part.separator ∉ fragments.map .fragment := by simp
  rw [entryLayout] at h
  by_cases hc : (contributes fragments && earlier.any contributes) = true
  · rw [if_pos hc, List.singleton_append,
      List.append_cons_inj_of_notMem (hnone _) (hnone _)] at h
    rw [Bool.and_eq_true] at hc
    obtain ⟨f, rest, hdrop, hsolid⟩ := dropWhile_of_contributes hc.1
    exact ⟨hc.2, f, rest.map .fragment, by rw [← h.2.2, hdrop, List.map_cons], hsolid⟩
  · rw [if_neg hc, List.nil_append, ← List.map_append] at h
    exact absurd (h ▸ List.mem_append_right _ List.mem_cons_self) (hnone _)

/-- **What stands around a separator.** Something that is not blank has been written before it, and
what is written next is not blank. -/
theorem layout_split {written : List (List Text)} {before after : List Part}
    (h : layout earlier written = before ++ .separator :: after) :
    (earlier.any contributes = true ∨ ∃ f, .fragment f ∈ before ∧ Text.allBlank f = false) ∧
      ∃ f rest, after = .fragment f :: rest ∧ Text.allBlank f = false := by
  induction written generalizing earlier before with
  | nil => simp [layout] at h
  | cons fragments rest ih =>
      have hlater (between : List Part)
          (hsplit : layout (earlier ++ [fragments]) rest = between ++ .separator :: after) :
          (earlier.any contributes = true ∨
              ∃ f, .fragment f ∈ entryLayout earlier fragments ++ between ∧
                Text.allBlank f = false) ∧
            ∃ f rest, after = .fragment f :: rest ∧ Text.allBlank f = false := by
        obtain ⟨hbefore, hnext⟩ := ih hsplit
        refine ⟨?_, hnext⟩
        rw [any_contributes_concat, Bool.or_eq_true] at hbefore
        rcases hbefore with (hearlier | hcontributes) | ⟨f, hf, hsolid⟩
        · exact .inl hearlier
        · obtain ⟨f, hf, hsolid⟩ := List.any_eq_true.1 hcontributes
          exact .inr ⟨f, List.mem_append_left _ (fragment_mem_entryLayout earlier hf),
            by simpa using hsolid⟩
        · exact .inr ⟨f, List.mem_append_right _ hf, hsolid⟩
      rw [layout] at h
      rcases List.append_eq_append_iff.1 h with ⟨between, rfl, hsplit⟩ | ⟨behind, hentry, hafter⟩
      · exact hlater between hsplit
      · cases behind with
        | nil =>
            rw [List.append_nil] at hentry
            have hall := hlater [] hafter.symm
            rwa [List.append_nil, hentry] at hall
        | cons part behind =>
            obtain ⟨rfl, rfl⟩ := List.cons.inj hafter
            obtain ⟨hearlier, f, next, rfl, hsolid⟩ := entryLayout_split hentry
            exact ⟨.inl hearlier, f, next ++ layout _ rest, rfl, hsolid⟩

end Loop

namespace Node

open Loop

/-- **Separators stand exactly between the entries that contribute.** If the body runs without error
for every entry, there is a turn for each of them. A loop over nothing writes nothing. Any other
writes, in this order, its opening, what the body writes in the turns, laid out with separators, and
its closing. There is one separator less than there are entries that contribute, none of them comes
first or last, and no two stand side by side. -/
theorem run_separated {l : Loop} {body : Node} {env : Env} {entries : List Entry}
    (hentries : env.bindings.evalEntries l.collection = .ok entries)
    (hbody : ∀ t ∈ l.turns body.run env, (body.run (l.enterTurn t)).result.isOk = true) :
    let turns := l.turns body.run env
    let written := turns.map (l.turnFragments body.run)
    turns.map (·.entry) = entries ∧
      (∀ t ∈ turns, ∀ (σ : Type) (append : σ → Text → σ) (s : σ),
        (body.runIn (aliased l t.env.counter append) (s, l.enterTurn t)).2.1 =
          (l.turnFragments body.run t).foldl append s) ∧
      (∀ (σ : Type) (append : σ → Text → σ) (s : σ),
        (loop l body).runIn append (s, env) =
          (.ok true,
            ((if entries.isEmpty then []
              else l.opening.toList ++ ((layout [] written).flatMap (Part.fragments l.separator) ++
                l.closing.toList)).foldl append s,
            ((loop l body).run env).env))) ∧
      (layout [] written).count .separator = written.countP contributes - 1 ∧
      ∀ before after, layout [] written = before ++ .separator :: after →
        (∃ f, .fragment f ∈ before ∧ Text.allBlank f = false) ∧
          ∃ f rest, after = .fragment f :: rest ∧ Text.allBlank f = false := by
  intro turns written
  obtain ⟨hwritten, hresult⟩ := run_layout hentries hbody
  refine ⟨?_, fun t _ σ append s => ?_, fun σ append s => ?_, ?_, fun before after hsplit => ?_⟩
  · refine (entries_turns hentries).2 ?_
    rw [hresult]
    rfl
  · rw [runIn_eq, turnFragments, List.foldl_map]
    rfl
  · rw [runIn_eq, run, Run.into, hresult, hwritten]
  · exact count_layout [] written
  · obtain ⟨hbefore, hnext⟩ := layout_split hsplit
    exact ⟨hbefore.resolve_left Bool.false_ne_true, hnext⟩

/-- Two of four rows write more than a line break, and a blank fragment stands before the
separator. -/
theorem run_separated_rows :
    let x : Text := "x".toList
    let l : Loop :=
      { collection := "rows".toList, item := some x, opening := some "(".toList,
        closing := some ")".toList, separator := some ",".toList }
    let body : Node := .mixed [.plain "\n".toList, .guard x (.plain "#\x7bx.id\x7d".toList)]
    let rows : List Value := [.null, .integer 5, .null, .integer 6]
    let env : Env := ⟨Bindings.ofCall (.object [("rows".toList, .array rows)]) none, 0⟩
    ((loop l body).runIn (fun c fragment => c ++ [fragment]) ([], env)).2.1 =
      ["(", "\n", "\n", "#\x7b__gen_x_1.id\x7d", "\n", "\n", ",", "#\x7b__gen_x_3.id\x7d",
        ")"].map String.toList := by
  intro x l body rows env
  have hrows : Expr.parse l.collection = .ok (.ref "rows".toList) := Path.parse_name (by decide)
  have hx : Expr.parse x = .ok (.ref x) := Path.parse_name (by decide)
  have hentries : env.bindings.evalEntries l.collection = .ok (Entry.ofItems 0 rows) := by
    rw [Bindings.evalEntries, Bindings.eval, hrows]
    rfl
  have hbody : ∀ t ∈ l.turns body.run env, (body.run (l.enterTurn t)).result.isOk = true := by
    rw [turns_of_entries hentries]
    simp only [body, run, runAll, runGuard, Bindings.evalTruth, Bindings.eval, hx]
    decide +kernel
  obtain ⟨-, -, hcontext, -, -⟩ := run_separated hentries hbody
  rw [hcontext, turns_of_entries hentries]
  simp only [body, run, runAll, runGuard, Bindings.evalTruth, Bindings.eval, hx]
  decide +kernel

end Node

end DynamicSql
