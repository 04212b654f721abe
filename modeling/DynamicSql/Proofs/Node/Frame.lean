import DynamicSql.Proofs.Node.Context
import DynamicSql.Proofs.Node.Minting

/-!
# What a run leaves alone

Bindings are flat, so a part of a template may change what every later part sees. A run binds the
names that the tree binds, the aliases of its loops, their names for entries, and the name of a
scalar parameter; and a loop whose entries have all been run unbinds its aliases again.

* `textRuns`: the texts that a run comes to, each with the names that it finds.
* `Frames`: what the names at the end have to do with those at the start. It is closed under runs in
  a row (`Frames.append`), and a loop keeps it (`Frames.enter`, `Frames.leave`).
* `framed_run`: it holds for every node, and `run_frame` is what this says in any context.
-/

namespace DynamicSql

/-! ## Texts that are run -/

/-- A text that a run came to, with the names that it found. -/
structure TextRun where
  /-- The text. -/
  content : Text
  /-- The names when the text was run. -/
  bindings : Bindings

namespace TextRun

/-- Whether a scalar parameter was bound for the text, as it has substitutions. -/
def bindsScalar (t : TextRun) : Bool :=
  Node.isDynamicText t.content && t.bindings.parameter.isScalar

/-- The scalar parameter that was bound last. -/
def lastScalar (texts : List TextRun) : Option Value :=
  (texts.filter bindsScalar).getLast?.map (·.bindings.parameter)

lemma lastScalar_append (texts others : List TextRun) :
    lastScalar (texts ++ others) = (lastScalar others).or (lastScalar texts) := by
  unfold lastScalar
  rw [List.filter_append, List.getLast?_append, Option.map_or]

/-- Nothing is bound where no text binds anything. -/
lemma lastScalar_eq_none {texts : List TextRun} (h : ∀ t ∈ texts, ¬ t.bindsScalar = true) :
    lastScalar texts = none := by
  unfold lastScalar
  rw [List.filter_eq_nil_iff.2 h]
  rfl

end TextRun

namespace Run

variable {α β : Type}

/-- What comes behind a run, from its result and the names it leaves; nothing if it fails. -/
def onward (m : Run α) (next : α → Env → List β) : Env → List β := fun env =>
  match m env with
  | ⟨_, env', .ok a⟩ => next a env'
  | ⟨_, _, .error _⟩ => []

lemma onward_nil (m : Run α) : m.onward (fun _ _ => ([] : List β)) = fun _ => [] := by
  funext env
  unfold onward
  rcases m env with ⟨written, env', e | a⟩ <;> rfl

end Run

namespace Loop

/-- The texts that the entries of a loop come to, from those of the body. -/
def entriesTextRuns (l : Loop) (body : Run Bool) (texts : Env → List TextRun) :
    List Entry → Env → List TextRun
  | [], _ => []
  | entry :: rest, env =>
    texts (l.enter entry env) ++
      body.onward (fun _ => l.entriesTextRuns body texts rest) (l.enter entry env)

/-- The texts that a loop comes to. -/
def textRuns (l : Loop) (body : Run Bool) (texts : Env → List TextRun) : Env → List TextRun :=
  (Run.ofBindings (·.evalEntries l.collection)).onward (l.entriesTextRuns body texts)

end Loop

namespace Node

/-- The texts that a guarded body comes to. -/
def guardTextRuns (test : Text) (texts : Env → List TextRun) : Env → List TextRun :=
  (Run.ofBindings (·.evalTruth test)).onward fun holds => if holds then texts else fun _ => []

mutual

/-- The texts that the run of a node comes to, in order. -/
def textRuns : Node → Env → List TextRun
  | text content _ => fun env => [⟨content, env.bindings⟩]
  | guard test body => guardTextRuns test body.textRuns
  | choose branches otherwise => branchTextRuns branches (optionTextRuns otherwise)
  | loop l body => l.textRuns body.run body.textRuns
  | trim _ body => body.textRuns
  | bind _ _ => fun _ => []
  | mixed children => allTextRuns children

/-- The texts that several nodes come to. -/
def allTextRuns : List Node → Env → List TextRun
  | [] => fun _ => []
  | child :: rest => fun env =>
    child.textRuns env ++ child.run.onward (fun _ => allTextRuns rest) env

/-- The texts that branches come to, or else `otherwise`. -/
def branchTextRuns : List (Text × Node) → (Env → List TextRun) → Env → List TextRun
  | [], otherwise => otherwise
  | (test, body) :: rest, otherwise => fun env =>
    guardTextRuns test body.textRuns env ++
      (runGuard test body.run).onward
        (fun taken => if taken then fun _ => [] else branchTextRuns rest otherwise) env

/-- The texts that an optional node comes to. -/
def optionTextRuns : Option Node → Env → List TextRun
  | none => fun _ => []
  | some node => node.textRuns

end

/-! ## Names of a tree -/

/-- The names that nodes bind by themselves. -/
def boundNames (nodes : List Node) : List Text :=
  nodes.filterMap fun
    | bind name _ => some name
    | _ => none

/-- The aliases of the loops among nodes. -/
def loopAliases (nodes : List Node) : List Text :=
  nodes.flatMap fun
    | loop l _ => l.aliases
    | _ => []

end Node

/-- The names that a run may change, while ids from `first` up to `next` are drawn. -/
inductive Changeable (bound aliases : List Text) (first next : Nat) : Text → Prop where
  /-- A name that is bound. -/
  | ofBind {name : Text} (h : name ∈ bound) : Changeable bound aliases first next name
  /-- An alias. -/
  | ofAlias {name : Text} (h : name ∈ aliases) : Changeable bound aliases first next name
  /-- The name of an alias for an entry. -/
  | ofEntry {name : Text} {id : Nat} (h : name ∈ aliases) (hfirst : first ≤ id)
      (hnext : id < next) : Changeable bound aliases first next (syntheticName name id)
  /-- The name of a scalar parameter. -/
  | ofValue : Changeable bound aliases first next Node.valueName

/-- More names may be changed while more ids are drawn. -/
lemma Changeable.mono {bound aliases : List Text} {first next first' next' : Nat} {name : Text}
    (h : Changeable bound aliases first next name) (hfirst : first' ≤ first)
    (hnext : next ≤ next') : Changeable bound aliases first' next' name := by
  cases h with
  | ofBind h => exact .ofBind h
  | ofAlias h => exact .ofAlias h
  | ofEntry h hf hn => exact .ofEntry h (hfirst.trans hf) (Nat.lt_of_lt_of_le hn hnext)
  | ofValue => exact .ofValue

/-- A loop may change no more names than the tree around it. -/
lemma Changeable.of_append {bound aliases others : List Text} {first next : Nat} {name : Text}
    (hsub : others ⊆ aliases) (h : Changeable (bound ++ others) aliases first next name) :
    Changeable bound aliases first next name := by
  cases h with
  | ofBind h => exact (List.mem_append.1 h).elim .ofBind fun hmem => .ofAlias (hsub hmem)
  | ofAlias h => exact .ofAlias h
  | ofEntry h hfirst hnext => exact .ofEntry h hfirst hnext
  | ofValue => exact .ofValue

/-- A name that is not reserved is changed only if the tree names it, or as the name of a scalar
parameter. -/
lemma not_changeable {bound aliases : List Text} {first next : Nat} {name : Text}
    (hbound : name ∉ bound) (haliases : name ∉ aliases) (hvalue : name ≠ Node.valueName)
    (hreserved : isReserved name = false) : ¬ Changeable bound aliases first next name := by
  intro h
  cases h with
  | ofBind h => exact hbound h
  | ofAlias h => exact haliases h
  | ofEntry _ _ _ => exact syntheticName_ne_of_not_reserved hreserved _ _ rfl
  | ofValue => exact hvalue rfl

/-! ## The names that a loop binds for an entry and unbinds at its end -/

/-- An alias that is bound for an entry leaves other names alone. -/
lemma Bindings.get?_bindAlias_of_ne {name? : Option Text} {id : Nat} {name : Text}
    (h : name ∉ name?) (hentry : ∀ other ∈ name?, name ≠ syntheticName other id) (b : Bindings)
    (value : Value) : (b.bindAlias name? id value).get? name = b.get? name := by
  cases name? with
  | none => rfl
  | some other =>
      have hne : name ≠ other := fun heq => h (heq ▸ rfl)
      rw [bindAlias, Table.get?_insert, if_neg (hentry other rfl), Table.get?_insert, if_neg hne]

namespace Loop

variable {l : Loop} {name : Text}

/-- The start of an entry leaves names alone that are neither aliases nor names for this entry. -/
lemma get?_enter_of_ne {env : Env} (h : name ∉ l.aliases)
    (hentry : ∀ other ∈ l.aliases, name ≠ syntheticName other env.counter) (entry : Entry) :
    (l.enter entry env).bindings.get? name = env.bindings.get? name := by
  rw [mem_aliases_iff, not_or] at h
  rw [enter, Bindings.get?_bindAlias_of_ne h.1 fun other ho => hentry other (item_mem_aliases ho),
    Bindings.get?_bindAlias_of_ne h.2 fun other ho => hentry other (index_mem_aliases ho)]

/-- At the end of a loop its aliases are unbound, and all other names are what they were. -/
lemma get?_leave (l : Loop) (env : Env) (name : Text) :
    (l.leave env).bindings.get? name =
      if name ∈ l.aliases then none else env.bindings.get? name := by
  have herase (name? : Option Text) (b : Bindings) :
      (name?.elim b b.erase).get? name = if name ∈ name? then none else b.get? name := by
    cases name? with
    | none => rfl
    | some other => simp only [Option.elim, Table.get?_erase, Option.mem_some_iff, eq_comm]
  simp only [leave, herase, mem_aliases_iff]
  by_cases hitem : name ∈ l.item <;> by_cases hindex : name ∈ l.index <;> simp [hitem, hindex]

end Loop

/-! ## Frames -/

open Node (valueName)

/-- What the names at the end of a run have to do with those at its start, if it came to the given
texts; `done` says whether the run was carried through. -/
structure Frames (bound aliases : List Text) (texts : List TextRun) (env env' : Env)
    (done : Prop) : Prop where
  /-- The counter does not go down. -/
  counter : env.counter ≤ env'.counter
  /-- Names that may not be changed stand for what they stood for. -/
  same : ∀ name, ¬ Changeable bound aliases env.counter env'.counter name →
    env'.bindings.get? name = env.bindings.get? name
  /-- The name of a scalar parameter stands for the last one that was bound for a text. -/
  value : valueName ∉ bound → valueName ∉ aliases →
    env'.bindings.get? valueName =
      (TextRun.lastScalar texts).or (env.bindings.get? valueName)
  /-- Other names than those that are bound stand for nothing if they did before. -/
  unbound : done → ∀ name, name ∉ bound → name ≠ valueName → isReserved name = false →
    env.bindings.get? name = none → env'.bindings.get? name = none

namespace Frames

variable {bound aliases : List Text} {texts others : List TextRun} {env env' env'' : Env}
  {done done' : Prop} {l : Loop}

/-- Nothing happens at texts that bind nothing. -/
lemma refl (h : TextRun.lastScalar texts = none) (env : Env) :
    Frames bound aliases texts env env done where
  counter := Nat.le_refl _
  same _ _ := rfl
  value _ _ := by rw [h, Option.none_or]
  unbound _ _ _ _ _ hnone := hnone

/-- **Runs in a row.** -/
theorem append (h : Frames bound aliases texts env env' True)
    (h' : Frames bound aliases others env' env'' done) :
    Frames bound aliases (texts ++ others) env env'' done where
  counter := h.counter.trans h'.counter
  same name hname := by
    -- what may be changed in either part may be changed in the whole
    have hfirst : ¬ Changeable bound aliases env.counter env'.counter name := fun hc =>
      hname (hc.mono (Nat.le_refl _) h'.counter)
    have hsecond : ¬ Changeable bound aliases env'.counter env''.counter name := fun hc =>
      hname (hc.mono h.counter (Nat.le_refl _))
    rw [h'.same name hsecond, h.same name hfirst]
  value hbound haliases := by
    rw [h'.value hbound haliases, h.value hbound haliases, TextRun.lastScalar_append,
      Option.or_assoc]
  unbound hdone name hbound hvalue hreserved hnone :=
    h'.unbound hdone name hbound hvalue hreserved
      (h.unbound trivial name hbound hvalue hreserved hnone)

/-- A run that was carried through less is framed all the same. -/
lemma imp (h : Frames bound aliases texts env env' done) (hdone : done' → done) :
    Frames bound aliases texts env env' done' :=
  ⟨h.counter, h.same, h.value, fun hd => h.unbound (hdone hd)⟩

/-- A name is bound. -/
lemma insert {name : Text} (hname : name ∈ bound) (value : Value) :
    Frames bound aliases [] env { env with bindings := env.bindings.insert name value } done := by
  have hother (other : Text) (hother : other ∉ bound) :
      (env.bindings.insert name value).get? other = env.bindings.get? other := by
    have hne : other ≠ name := fun heq => hother (heq ▸ hname)
    rw [Table.get?_insert, if_neg hne]
  constructor
  · exact Nat.le_refl _
  · exact fun other hc => hother other fun hmem => hc (.ofBind hmem)
  · exact fun hbound _ => hother valueName hbound
  · exact fun _ other hbound _ _ hnone => (hother other hbound).trans hnone

/-- A text with substitutions binds a scalar parameter. -/
lemma bindScalar {content : Text} (hdynamic : Node.isDynamicText content = true) :
    Frames bound aliases [⟨content, env.bindings⟩] env
      { env with bindings := Node.bindScalar env.bindings } done := by
  have hother (name : Text) (hname : name ≠ valueName) :
      (Node.bindScalar env.bindings).get? name = env.bindings.get? name := by
    unfold Node.bindScalar
    split
    · rw [Table.get?_insert, if_neg hname]
    · rfl
  constructor
  · exact Nat.le_refl _
  · exact fun name hc => hother name fun heq => hc (heq ▸ .ofValue)
  · intro _ _
    unfold Node.bindScalar TextRun.lastScalar
    split
    · rename_i hscalar
      simp [TextRun.bindsScalar, hdynamic, hscalar, Table.get?_insert]
    · rename_i hscalar
      simp [TextRun.bindsScalar, hscalar]
  · exact fun _ name _ hvalue _ hnone => (hother name hvalue).trans hnone

/-- The start of an entry binds aliases, and names for the entry. -/
theorem enter (hl : l.aliases ⊆ aliases) (entry : Entry) :
    Frames (bound ++ l.aliases) aliases [] env (l.enter entry env) done := by
  have hreserved : isReserved valueName = false := by decide
  have hother (name : Text) (hname : name ∉ bound ++ l.aliases) (hr : isReserved name = false) :
      (l.enter entry env).bindings.get? name = env.bindings.get? name :=
    Loop.get?_enter_of_ne (fun hmem => hname (List.mem_append_right _ hmem))
      (fun other _ => (syntheticName_ne_of_not_reserved hr other _).symm) entry
  constructor
  · exact Nat.le_succ _
  · intro name hc
    have hentry (other : Text) (ho : other ∈ l.aliases) :
        name ≠ syntheticName other env.counter := by
      rintro rfl
      exact hc (.ofEntry (hl ho) (Nat.le_refl _) (Nat.lt_succ_self _))
    exact Loop.get?_enter_of_ne (fun hmem => hc (.ofAlias (hl hmem))) hentry entry
  · exact fun hbound _ => hother valueName hbound hreserved
  · exact fun _ name hbound _ hr hnone => (hother name hbound hr).trans hnone

/-- The entries of a loop change no more names than the tree around it may, but when one of them
fails its aliases are left behind. -/
lemma broken (hl : l.aliases ⊆ aliases)
    (h : Frames (bound ++ l.aliases) aliases texts env env' done) :
    Frames bound aliases texts env env' False where
  counter := h.counter
  same name hc := h.same name fun hname => hc (hname.of_append hl)
  value hbound haliases :=
    h.value (fun hmem => (List.mem_append.1 hmem).elim hbound fun hmem => haliases (hl hmem))
      haliases
  unbound hfalse := hfalse.elim

/-- **The end of a loop** unbinds the aliases, so that none of them is left. -/
theorem leave (hl : l.aliases ⊆ aliases)
    (h : Frames (bound ++ l.aliases) aliases texts env env' True) :
    Frames bound aliases texts env (l.leave env') done := by
  have hother (name : Text) (hname : name ∉ aliases) :
      (l.leave env').bindings.get? name = env'.bindings.get? name := by
    rw [Loop.get?_leave, if_neg fun hmem => hname (hl hmem)]
  constructor
  · exact h.counter
  · intro name hc
    rw [hother name fun hmem => hc (.ofAlias hmem), (h.broken hl).same name hc]
  · intro hbound haliases
    rw [hother valueName haliases, (h.broken hl).value hbound haliases]
  · intro _ name hbound hvalue hreserved hnone
    rw [Loop.get?_leave]
    by_cases hmem : name ∈ l.aliases
    · rw [if_pos hmem]
    · have hname : name ∉ bound ++ l.aliases := fun hm =>
        (List.mem_append.1 hm).elim hbound hmem
      rw [if_neg hmem, h.unbound trivial name hname hvalue hreserved hnone]

end Frames

/-! ## Framed runs -/

namespace Run

variable {α β : Type} {bound aliases : List Text} {m : Run α} {texts : Env → List TextRun}

/-- Whether a run that comes to some texts frames the names at its start and its end. -/
def Framed (bound aliases : List Text) (m : Run α) (texts : Env → List TextRun) : Prop :=
  ∀ env, Frames bound aliases (texts env) env (m env).env ((m env).result.isOk = true)

namespace Framed

/-- A run that leaves the environment as it is. -/
lemma of_env (h : ∀ env, (m env).env = env) : Framed bound aliases m fun _ => [] := by
  intro env
  rw [h]
  exact .refl rfl env

lemma pure (a : α) : Framed bound aliases (Run.pure a) fun _ => [] := of_env fun _ => rfl

/-- **Runs in a row.** -/
theorem bind {f : α → Run β} {others : α → Env → List TextRun}
    (hm : Framed bound aliases m texts) (hf : ∀ a, Framed bound aliases (f a) (others a)) :
    Framed bound aliases (Run.bind m f) fun env => texts env ++ m.onward others env := by
  intro env
  have hfirst := hm env
  rcases h : m env with ⟨written, env', e | a⟩
  · rw [h] at hfirst
    simp only [Run.bind, onward, h, List.append_nil]
    exact hfirst
  · rw [h] at hfirst
    simp only [Run.bind, onward, h]
    exact (hfirst.imp fun _ => rfl).append (hf a env')

/-- A run behind one that comes to no text. -/
lemma bind_quiet {f : α → Run β} {others : α → Env → List TextRun}
    (hm : Framed bound aliases m fun _ => []) (hf : ∀ a, Framed bound aliases (f a) (others a)) :
    Framed bound aliases (Run.bind m f) (m.onward others) := by
  simpa only [List.nil_append] using hm.bind hf

/-- A run before one that comes to no text. -/
lemma bind_last {f : α → Run β} (hm : Framed bound aliases m texts)
    (hf : ∀ a, Framed bound aliases (f a) fun _ => []) :
    Framed bound aliases (Run.bind m f) texts := by
  simpa only [onward_nil, List.append_nil] using hm.bind hf

end Framed

end Run

/-! ### Loops -/

namespace Loop

variable {l : Loop} {body : Run Bool} {bound aliases : List Text} {texts : Env → List TextRun}

/-- What comes behind an entry comes behind its body. -/
lemma onward_runEntry (l : Loop) (body : Run Bool) (contributed : Bool) (entry : Entry)
    {β : Type} (next : Env → List β) (env : Env) :
    (l.runEntry body contributed entry).onward (fun _ => next) env =
      body.onward (fun _ => next) (l.enter entry env) := by
  unfold Run.onward
  rw [runEntry_eq]
  rcases body (l.enter entry env) with ⟨written, env', e | a⟩ <;> rfl

variable (hl : l.aliases ⊆ aliases) (hbody : body.Framed (bound ++ l.aliases) aliases texts)

include hl hbody

/-- An entry may bind its aliases, too. -/
lemma framed_runEntry (contributed : Bool) (entry : Entry) :
    (l.runEntry body contributed entry).Framed (bound ++ l.aliases) aliases
      fun env => texts (l.enter entry env) := by
  intro env
  have hentry := (Frames.enter hl entry).append (hbody (l.enter entry env))
  rw [runEntry_eq]
  refine hentry.imp fun hok => ?_
  rcases h : (body (l.enter entry env)).result with e | a
  · simp only [h, Except.map] at hok
    cases hok
  · rfl

/-- Entries in a row, by induction on them. -/
lemma framed_runEntries (contributed : Bool) (entries : List Entry) :
    (l.runEntries body contributed entries).Framed (bound ++ l.aliases) aliases
      (l.entriesTextRuns body texts entries) := by
  induction entries generalizing contributed with
  | nil => exact .pure ()
  | cons entry rest ih =>
      have hboth := (framed_runEntry hl hbody contributed entry).bind fun now =>
        ih (contributed || now)
      simp only [onward_runEntry] at hboth
      exact hboth

/-- **A loop** leaves the names alone that its entries leave alone, and its aliases unbound. -/
theorem framed_run : (l.run body).Framed bound aliases (l.textRuns body texts) := by
  intro env
  rcases h : env.bindings.evalEntries l.collection with e | entries
  · simp only [textRuns, run, Bind.bind, Run.bind, Run.onward, Run.ofBindings, h]
    exact .refl rfl env
  · have htexts : l.textRuns body texts env = l.entriesTextRuns body texts entries env := by
      simp only [textRuns, Run.onward, Run.ofBindings, h]
    rw [htexts]
    by_cases hne : entries = []
    · subst hne
      simp only [run, Bind.bind, Run.bind, Run.ofBindings, h]
      exact .refl rfl env
    · have hentries := framed_runEntries hl hbody false entries env
      rw [run_of_entries h hne]
      rcases hrun : l.runEntries body false entries env with ⟨written, env', e | a⟩
      · rw [hrun] at hentries
        exact (hentries.broken hl).imp fun hok => by cases hok
      · rw [hrun] at hentries
        exact (hentries.imp fun _ => rfl).leave hl

end Loop

/-! ### Nodes -/

namespace Node

/-- Whether the names that nodes bind are among the given ones. -/
structure NamedWithin (bound aliases : List Text) (nodes : List Node) : Prop where
  /-- The names of bindings. -/
  bind : ∀ name value, .bind name value ∈ nodes → name ∈ bound
  /-- The aliases of loops. -/
  aliases : ∀ l body, .loop l body ∈ nodes → l.aliases ⊆ aliases

namespace NamedWithin

variable {bound aliases : List Text} {nodes others : List Node}

/-- Some of the nodes. -/
lemma mono (h : NamedWithin bound aliases nodes) (hsub : others ⊆ nodes) :
    NamedWithin bound aliases others where
  bind name value hmem := h.bind name value (hsub hmem)
  aliases l body hmem := h.aliases l body (hsub hmem)

/-- More names. -/
lemma append (h : NamedWithin bound aliases nodes) (names : List Text) :
    NamedWithin (bound ++ names) aliases nodes where
  bind name value hmem := List.mem_append_left _ (h.bind name value hmem)
  aliases := h.aliases

/-- Nodes bind the names that they bind. -/
lemma self (nodes : List Node) : NamedWithin (boundNames nodes) (loopAliases nodes) nodes where
  bind _ _ hmem := List.mem_filterMap.2 ⟨_, hmem, rfl⟩
  aliases _ _ hmem _ hname := List.mem_flatMap.2 ⟨_, hmem, hname⟩

end NamedWithin

variable {bound aliases : List Text}

/-- Text binds a scalar parameter if it has substitutions. -/
lemma framed_runText (content : Text) (filter : Option Pattern) :
    (runText content filter).Framed bound aliases fun env => [⟨content, env.bindings⟩] := by
  unfold runText
  split
  · rename_i hdynamic
    have hscalar : (Run.modifyBindings bindScalar).Framed bound aliases
        fun env => [⟨content, env.bindings⟩] := fun env => .bindScalar hdynamic
    refine hscalar.bind_last fun _ => ?_
    refine .bind_last (.of_env fun _ => rfl) fun sql => ?_
    exact .bind_last (.of_env fun _ => rfl) fun _ => .pure true
  · rename_i hstatic
    intro env
    refine .refl (TextRun.lastScalar_eq_none fun t ht hscalar => ?_) env
    rw [List.mem_singleton.1 ht, TextRun.bindsScalar, Bool.and_eq_true] at hscalar
    exact hstatic hscalar.1

/-- A guard comes to the texts of its body if the test is true. -/
lemma framed_runGuard (test : Text) {body : Run Bool} {texts : Env → List TextRun}
    (hbody : body.Framed bound aliases texts) :
    (runGuard test body).Framed bound aliases (guardTextRuns test texts) := by
  refine .bind_quiet (.of_env fun _ => rfl) fun holds => ?_
  cases holds with
  | true => exact hbody.bind_last fun _ => .pure true
  | false => exact .pure false

/-- Trimming changes what is written only. -/
lemma framed_runTrim (rule : TrimRule) {body : Run Bool} {texts : Env → List TextRun}
    (hbody : body.Framed bound aliases texts) :
    (runTrim rule body).Framed bound aliases texts := by
  intro env
  rw [env_runTrim, result_runTrim]
  exact hbody env

/-- A binding binds its name. -/
lemma framed_runBind {name : Text} (hname : name ∈ bound) (value : Text) :
    (runBind name value).Framed bound aliases fun _ => [] := by
  refine .bind_last (.of_env fun _ => rfl) fun v => ?_
  have hbind : (Run.bindName name v).Framed bound aliases fun _ => [] := fun env =>
    .insert hname v
  exact hbind.bind_last fun _ => .pure true

mutual

/-- **Every node** changes no other names than it may. -/
theorem framed_run : (node : Node) → {bound : List Text} →
    NamedWithin bound aliases node.parts → node.run.Framed bound aliases node.textRuns
  | text content filter, _, _ => by
      unfold run textRuns
      exact framed_runText content filter
  | guard test body, _, h => by
      unfold run textRuns
      exact framed_runGuard test (framed_run body (h.mono (List.subset_cons_self _ _)))
  | choose branches otherwise, _, h => by
      have hall := h.mono (List.subset_cons_self _ _)
      unfold run textRuns
      exact framed_runBranches branches (hall.mono (List.subset_append_left _ _))
        (framed_runOption otherwise (hall.mono (List.subset_append_right _ _)))
  | loop l body, _, h => by
      have hl : l.aliases ⊆ aliases := h.aliases l body List.mem_cons_self
      have hbody := (h.mono (List.subset_cons_self _ _)).append l.aliases
      unfold run textRuns
      exact Loop.framed_run hl (framed_run body hbody)
  | trim rule body, _, h => by
      unfold run textRuns
      exact framed_runTrim rule (framed_run body (h.mono (List.subset_cons_self _ _)))
  | bind name value, _, h => by
      unfold run textRuns
      exact framed_runBind (h.bind name value List.mem_cons_self) value
  | mixed children, _, h => by
      unfold run textRuns
      exact framed_runAll children (h.mono (List.subset_cons_self _ _))

/-- Several nodes. -/
theorem framed_runAll : (children : List Node) → {bound : List Text} →
    NamedWithin bound aliases (listParts children) →
    (runAll children).Framed bound aliases (allTextRuns children)
  | [], _, _ => by
      unfold runAll allTextRuns
      exact .pure true
  | child :: rest, _, h => by
      unfold runAll allTextRuns
      exact (framed_run child (h.mono (List.subset_append_left _ _))).bind fun _ =>
        framed_runAll rest (h.mono (List.subset_append_right _ _))

/-- Branches. -/
theorem framed_runBranches : (branches : List (Text × Node)) → {bound : List Text} →
    NamedWithin bound aliases (branchParts branches) → {otherwise : Run Bool} →
    {texts : Env → List TextRun} → otherwise.Framed bound aliases texts →
    (runBranches branches otherwise).Framed bound aliases (branchTextRuns branches texts)
  | [], _, _, _, _, hotherwise => by
      unfold runBranches branchTextRuns
      exact hotherwise
  | (test, body) :: rest, _, h, otherwise, texts, hotherwise => by
      have hbody := framed_run body (h.mono (List.subset_append_left _ _))
      unfold runBranches branchTextRuns
      refine (framed_runGuard test hbody).bind fun taken => ?_
      cases taken with
      | true => exact .pure true
      | false => exact framed_runBranches rest (h.mono (List.subset_append_right _ _)) hotherwise

/-- An optional node. -/
theorem framed_runOption : (node? : Option Node) → {bound : List Text} →
    NamedWithin bound aliases (optionParts node?) →
    (runOption node?).Framed bound aliases (optionTextRuns node?)
  | none, _, _ => by
      unfold runOption optionTextRuns
      exact .pure false
  | some node, _, h => by
      unfold runOption optionTextRuns
      exact (framed_run node h).bind_last fun _ => .pure true

end

/-- **What a run leaves alone.** In any context, and whether the run fails or not, a name stands for
what it stood for unless the tree binds it, or a loop has it for an alias or made it from an alias
and an id of the run, or it is the name of a scalar parameter. That one stands for the last scalar
parameter that a text with substitutions has bound, so it changes only by such a text, or if the
tree names it. Parameter and database keep their values unless the tree names them; and a run that
is carried through leaves no alias of a loop behind. -/
theorem run_frame (node : Node)
    (haliases : ∀ name ∈ loopAliases node.parts, isReserved name = false) {σ : Type}
    (append : σ → Text → σ) (s : σ) (env : Env) :
    let bound := boundNames node.parts
    let aliases := loopAliases node.parts
    let o := node.runIn append (s, env)
    let before := env.bindings
    let after := o.2.2.bindings
    env.counter ≤ o.2.2.counter ∧
      (∀ name, ¬ Changeable bound aliases env.counter o.2.2.counter name →
        after.get? name = before.get? name) ∧
      (valueName ∉ bound → valueName ∉ aliases →
        after.get? valueName =
          (TextRun.lastScalar (node.textRuns env)).or (before.get? valueName)) ∧
      (after.get? valueName ≠ before.get? valueName →
        (∃ t ∈ node.textRuns env,
          isDynamicText t.content = true ∧ t.bindings.parameter.isScalar = true) ∨
        valueName ∈ bound ∨ valueName ∈ aliases) ∧
      (∀ name ∈ [Bindings.parameterName, Bindings.databaseName], name ∉ bound → name ∉ aliases →
        after.get? name = before.get? name) ∧
      (o.1.isOk = true → ∀ name ∈ aliases, name ∉ bound → name ≠ valueName →
        before.get? name = none → after.get? name = none) := by
  intro bound aliases o before after
  have hrun : o = node.run.into append (s, env) := congrFun (runIn_eq node append) (s, env)
  have hframe : Frames bound aliases (node.textRuns env) env o.2.2 (o.1.isOk = true) := by
    rw [hrun]
    exact framed_run node (.self node.parts) env
  refine ⟨hframe.counter, hframe.same, hframe.value, ?_, ?_, ?_⟩
  · intro hchanged
    by_contra hnone
    simp only [not_or] at hnone
    obtain ⟨htexts, hbound, hnot⟩ := hnone
    have hscalar : TextRun.lastScalar (node.textRuns env) = none :=
      TextRun.lastScalar_eq_none fun t ht hbinds =>
        htexts ⟨t, ht, Bool.and_eq_true_iff.1 hbinds⟩
    exact hchanged (by rw [hframe.value hbound hnot, hscalar, Option.none_or])
  · intro name hname hbound hnot
    have hvalue : ∀ name ∈ [Bindings.parameterName, Bindings.databaseName],
        name ≠ valueName ∧ isReserved name = false := by decide
    obtain ⟨hne, hreserved⟩ := hvalue name hname
    exact hframe.same name (not_changeable hbound hnot hne hreserved)
  · intro hok name hmem hbound hne hnone
    exact hframe.unbound hok name hbound hne (haliases name hmem) hnone

/-- Two loops share an alias, for the value in the outer one and for the index in the inner one,
and the second group is empty. No alias is left at the end. -/
theorem run_frame_shared :
    let inner : Loop :=
      { collection := "x".toList, item := some "y".toList, index := some "x".toList }
    let outer : Loop := { collection := "groups".toList, item := some "x".toList }
    let node : Node := .loop outer (.loop inner (.mixed []))
    let groups : Value := .array [.array [.integer 7, .integer 8], .array []]
    let env : Env := ⟨Bindings.ofCall (.object [("groups".toList, groups)]) none, 0⟩
    let o := node.runIn Fragment.append ([], env)
    (∀ name ∈ loopAliases node.parts, isReserved name = false) ∧ o.1.isOk = true ∧
      o.2.2.counter = 4 ∧ (∀ name ∈ loopAliases node.parts, o.2.2.bindings.get? name = none) ∧
      o.2.2.bindings.get? Bindings.parameterName = env.bindings.get? Bindings.parameterName := by
  intro inner outer node groups env o
  have haliases : ∀ name ∈ loopAliases node.parts, isReserved name = false := by decide
  have hgroups : Expr.parse outer.collection = .ok (.ref "groups".toList) :=
    Path.parse_name (by decide)
  have hx : Expr.parse inner.collection = .ok (.ref "x".toList) := Path.parse_name (by decide)
  have heval : o.1.isOk = true ∧ o.2.2.counter = 4 := by
    simp only [o, runIn_eq, Run.into, node, outer, inner, run, Loop.run, Bindings.evalEntries,
      Bindings.eval, hgroups, hx]
    decide +kernel
  obtain ⟨-, -, -, -, hkept, hleft⟩ := run_frame node haliases Fragment.append [] env
  have hnames : ∀ name ∈ loopAliases node.parts,
      name ∉ boundNames node.parts ∧ name ≠ valueName ∧ env.bindings.get? name = none := by
    intro name hmem
    have hxy : name = "x".toList ∨ name = "y".toList := by
      revert name
      decide
    rcases hxy with rfl | rfl <;> exact ⟨by decide, by decide, rfl⟩
  refine ⟨haliases, heval.1, heval.2, fun name hmem => ?_, ?_⟩
  · obtain ⟨hbound, hne, hnone⟩ := hnames name hmem
    exact hleft heval.1 name hmem hbound hne hnone
  · exact hkept _ List.mem_cons_self (by decide) (by decide)

end Node

end DynamicSql
