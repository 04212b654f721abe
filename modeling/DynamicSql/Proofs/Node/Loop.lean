import DynamicSql.Node.Loop
import DynamicSql.Proofs.Fragment
import DynamicSql.Proofs.Placeholder.Reference

/-!
# Loops around text

A loop whose body writes one fragment, whatever the bindings are, writes that fragment once for
every entry, renamed for the entry, with the separator in between (`run_text`). Afterwards the
names of the entries stand for their values (`get?_bindEntries`).
-/

namespace DynamicSql.Loop

/-! ## Bindings -/

/-- The bindings after entries with the given values have been run, the first of which has the
given id. -/
def bindEntries (name : Text) : Bindings → Nat → List Value → Bindings
  | b, _, [] => b
  | b, id, v :: rest =>
    bindEntries name ((b.insert name v).insert (syntheticName name id) v) (id + 1) rest

/-- Entries bind nothing but the alias and their own names. -/
lemma get?_bindEntries_of_ne {name other : Text} (hne : other ≠ name) (b : Bindings) (id : Nat)
    (vs : List Value) (hfresh : ∀ k, id ≤ k → other ≠ syntheticName name k) :
    (bindEntries name b id vs).get? other = b.get? other := by
  induction vs generalizing b id with
  | nil => rfl
  | cons v rest ih =>
      rw [bindEntries, ih _ _ fun k hk => hfresh k (Nat.le_of_succ_le hk), Table.get?_insert,
        if_neg (hfresh id (Nat.le_refl id)), Table.get?_insert, if_neg hne]

/-- **The name of an entry stands for its value** when all entries have been run. -/
theorem get?_bindEntries (name : Text) (b : Bindings) (id : Nat) (vs : List Value) :
    ∀ entry ∈ vs.zipIdx id,
      (bindEntries name b id vs).get? (syntheticName name entry.2) = some entry.1 := by
  induction vs generalizing b id with
  | nil => nofun
  | cons v rest ih =>
      rw [List.zipIdx_cons, List.forall_mem_cons]
      refine ⟨?_, ih _ (id + 1)⟩
      rw [bindEntries, get?_bindEntries_of_ne (ne_syntheticName name id).symm, Table.get?_insert,
        if_pos rfl]
      intro k hk h
      have := (syntheticName_inj_iff.1 h).2
      omega

/-! ## Entries -/

section entries

variable {l : Loop} {name s : Text} {body : Run Bool}

/-- The fragments of an entry that writes one fragment. -/
lemma entryFragments_singleton {id : Nat} (hblank : Text.allBlank (l.renameFragment id s) = false)
    (contributed : Bool) : l.entryFragments contributed id [s] =
      (if contributed then l.separator.toList else []) ++ [l.renameFragment id s] := by
  unfold entryFragments
  cases l.separator <;> cases contributed <;> simp [separated, hblank]

/-- What entries write, the first of which has the given id, if each of them writes one fragment. -/
def written (l : Loop) (s : Text) (id count : Nat) : List Text :=
  Fragment.spread l.separator ((List.range' id count).map (l.renameFragment · s))

/-- The run of a loop over nothing. -/
lemma run_nil {b : Bindings} (hentries : b.evalEntries l.collection = .ok []) (id : Nat) :
    l.run body ⟨b, id⟩ = ⟨[], ⟨b, id⟩, .ok true⟩ := by
  simp only [run, bind, Run.bind, Run.ofBindings, hentries]
  rfl

variable (hitem : l.item = some name) (hindex : l.index = none)
  (hbody : ∀ env, body env = ⟨[s], env, .ok true⟩)
  (hblank : ∀ id, Text.allBlank (l.renameFragment id s) = false)

include hitem hindex hbody hblank

/-- The run of one entry. -/
lemma runEntry_text (contributed : Bool) (index v : Value) (b : Bindings) (id : Nat) :
    l.runEntry body contributed ⟨index, v⟩ ⟨b, id⟩ =
      ⟨(if contributed then l.separator.toList else []) ++ [l.renameFragment id s],
        ⟨(b.insert name v).insert (syntheticName name id) v, id + 1⟩, .ok true⟩ := by
  have hcontributes : contributes (l.entryFragments contributed id [s]) = true := by
    rw [entryFragments_singleton (hblank id), contributes, List.any_append, List.any_cons,
      hblank id, Bool.not_false, Bool.true_or, Bool.or_true]
  rw [← entryFragments_singleton (hblank id), ← hcontributes]
  simp only [runEntry, bindAlias, hitem, hindex, bind, Run.bind, Run.nextId, Run.pure, pure,
    Run.bindName, Run.modifyBindings, Run.listened, Run.mapWritten, hbody, Except.map,
    List.nil_append, List.append_nil]

/-- **The run of all entries** writes the fragment once for each of them. -/
theorem runEntries_text (contributed : Bool) (position : Nat) (vs : List Value) (b : Bindings)
    (id : Nat) :
    l.runEntries body contributed (Entry.ofItems position vs) ⟨b, id⟩ =
      ⟨(if contributed && !vs.isEmpty then l.separator.toList else []) ++
          l.written s id vs.length,
        ⟨bindEntries name b id vs, id + vs.length⟩, .ok ()⟩ := by
  induction vs generalizing contributed position b id with
  | nil =>
      rw [List.isEmpty_nil, Bool.not_true, Bool.and_false, if_neg Bool.false_ne_true]
      rfl
  | cons v rest ih =>
      have hwritten : l.written s id (rest.length + 1) = [l.renameFragment id s] ++
          ((if !rest.isEmpty then l.separator.toList else []) ++
            l.written s (id + 1) rest.length) := by
        rw [written, List.range'_succ, List.map_cons, Fragment.spread_cons]
        cases rest <;> rfl
      change Run.bind (l.runEntry body contributed ⟨Eval.count position, v⟩) _ _ = _
      simp only [Run.bind, runEntry_text hitem hindex hbody hblank, ih, bindEntries, hwritten,
        Bool.true_and, List.isEmpty_cons, Bool.not_false, Bool.and_true, Bool.or_true,
        List.append_assoc, List.length_cons, Nat.add_assoc, Nat.add_comm 1]

/-- **The run of a loop around text**: the opening, the fragment once for every entry with the
separator in between, and the closing. -/
theorem run_text {b : Bindings} {position : Nat} {vs : List Value}
    (hentries : b.evalEntries l.collection = .ok (Entry.ofItems position vs)) (hne : vs ≠ [])
    (id : Nat) :
    l.run body ⟨b, id⟩ =
      ⟨l.opening.toList ++ l.written s id vs.length ++ l.closing.toList,
        ⟨(bindEntries name b id vs).erase name, id + vs.length⟩, .ok true⟩ := by
  have hsome (fragment? : Option Text) (env : Env) :
      Run.writeSome fragment? env = ⟨fragment?.toList, env, .ok ()⟩ := by
    cases fragment? <;> rfl
  have hentries' : (Entry.ofItems position vs).isEmpty = false := by
    obtain ⟨v, rest, rfl⟩ := List.exists_cons_of_ne_nil hne
    rfl
  simp only [run, bind, Run.bind, Run.ofBindings, hentries, hentries', Bool.false_eq_true, if_false,
    hsome, runEntries_text hitem hindex hbody hblank, hitem, hindex, Run.unbindSome, Run.unbind,
    Run.modifyBindings, Run.pure, pure, Bool.false_and, List.nil_append, List.append_nil,
    List.append_assoc]

end entries

end DynamicSql.Loop
