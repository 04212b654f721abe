import DynamicSql.Proofs.Delimited.Rewriting
import DynamicSql.Proofs.Node.Context
import DynamicSql.Proofs.Node.Entry
import DynamicSql.Proofs.Node.Tracing

/-!
# Placeholders in nested loops

A fragment that is written in several loops passes through the context of each of them, the
innermost first, and every context scans it again. A placeholder belongs to the innermost loop that
has the word at its start for an alias. That loop renames it, and the loops around leave it alone:
what it begins with now is the name of an entry, which is nobody's alias.

* `Loop.renameContent_eq`: what one loop makes of a content.
* `division_renamed`: what the contexts of all loops make of a fragment, which is to rename every
  placeholder for its owner.
* `renamed_by_owner`: the main statement.
-/

namespace DynamicSql

/-! ## The word that leads a content -/

/-- The word that leads the content of a placeholder, behind white space. -/
def leadingWord (content : Text) : Text := (Text.trimStart content).takeWhile (!endsAlias ·)

/-- What stands behind the word that leads a content. -/
def behindWord (content : Text) : Text := (Text.trimStart content).dropWhile (!endsAlias ·)

/-- A content is white space, a word and the rest. -/
lemma exists_append_leadingWord (content : Text) : ∃ blanks : Text,
    blanks.all Text.isBlank = true ∧
      content = blanks ++ (leadingWord content ++ behindWord content) := by
  obtain ⟨blanks, hblanks, hcontent⟩ := Text.exists_append_trimStart content
  exact ⟨blanks, hblanks, hcontent.trans (congrArg _ List.takeWhile_append_dropWhile.symm)⟩

/-- What stands behind the leading word ends it. -/
lemma endsAlias_behindWord {content : Text} : ∀ c ∈ (behindWord content).head?,
    endsAlias c = true := by
  intro c hc
  rw [behindWord] at hc
  simpa using Text.of_mem_head?_dropWhile hc

section name

variable {name content rest : Text} (hname : Text.isName name = true)

include hname

/-- No character of a name ends it. -/
lemma not_endsAlias_of_isName : name.all (!endsAlias ·) = true := by
  refine List.all_eq_true.2 fun c hc => ?_
  rw [Bool.not_eq_true', ← Bool.not_eq_true]
  intro hends
  have hcontinues := (not_continuesName_of_endsAlias hends).1
  rw [Text.continuesName_of_mem hname hc] at hcontinues
  cases hcontinues

/-- A name that leads a content as a whole word is the word that leads it. -/
lemma leadingWord_of_trimStart (htrim : Text.trimStart content = name ++ rest)
    (hrest : ∀ c ∈ rest.head?, endsAlias c = true) :
    leadingWord content = name ∧ behindWord content = rest := by
  have hsolid := not_endsAlias_of_isName hname
  have hrest' : ∀ c ∈ rest.head?, (!endsAlias c) = false := fun c hc => by rw [hrest c hc]; rfl
  rw [leadingWord, behindWord, htrim]
  exact ⟨Text.takeWhile_span hsolid hrest', Text.dropWhile_span hsolid hrest'⟩

/-- **An alias is renamed where it is the leading word.** -/
theorem renameAlias?_eq (replacement content : Text) :
    renameAlias? name replacement content =
      if leadingWord content = name then some (replacement ++ behindWord content) else none := by
  rcases h : renameAlias? name replacement content with _ | renamed
  · rw [if_neg]
    rintro rfl
    have hsome := renameAlias?_of_trimStart (Text.ne_nil_of_isName hname)
      List.takeWhile_append_dropWhile.symm endsAlias_behindWord replacement
    rw [h] at hsome
    cases hsome
  · obtain ⟨rest, htrim, hrest, rfl⟩ := renameAlias?_eq_some h
    obtain ⟨hword, hbehind⟩ := leadingWord_of_trimStart hname htrim hrest
    rw [if_pos hword, hbehind]

end name

/-! ## One loop -/

namespace Loop

/-- An optional alias is renamed where it is the leading word. -/
lemma renameSome?_eq {name? : Option Text} (h : ∀ name ∈ name?, Text.isName name = true) (id : Nat)
    (content : Text) :
    renameSome? name? id content = if leadingWord content ∈ name? then
      some (syntheticName (leadingWord content) id ++ behindWord content) else none := by
  cases name? with
  | none => rfl
  | some name =>
      simp only [renameSome?, Option.bind_some, renameAlias?_eq (h name rfl), Option.mem_some_iff]
      split
      · next heq => rw [if_pos heq.symm, heq]
      · next hne => rw [if_neg (Ne.symm hne)]

section renameContent

variable {l : Loop} (hnames : ∀ a ∈ l.aliases, Text.isName a = true)

include hnames

/-- **What a loop makes of a content** whose leading word is an alias, and of every other. -/
theorem renameContent_eq (id : Nat) (content : Text) :
    l.renameContent id content = if leadingWord content ∈ l.aliases then
      syntheticName (leadingWord content) id ++ behindWord content else content := by
  have hitem := renameSome?_eq (fun name hname => hnames name (item_mem_aliases hname)) id content
  have hindex := renameSome?_eq (fun name hname => hnames name (index_mem_aliases hname)) id content
  rw [renameContent, hitem, hindex]
  by_cases hi : leadingWord content ∈ l.item
  · rw [if_pos hi, if_pos (item_mem_aliases hi)]
    rfl
  · rw [if_neg hi, Option.none_or]
    by_cases hx : leadingWord content ∈ l.index
    · rw [if_pos hx, if_pos (index_mem_aliases hx)]
      rfl
    · rw [if_neg hx, if_neg (mem_aliases_iff.not.2 (not_or.2 ⟨hi, hx⟩))]
      rfl

/-- Renaming a content brings in characters of names only. -/
lemma not_mem_renameContent {c : Char} (hc : Text.continuesName c = false) (id : Nat)
    {content : Text} (hcontent : c ∉ content) : c ∉ l.renameContent id content := by
  rw [renameContent_eq hnames]
  split
  · next howns =>
    obtain ⟨blanks, -, hsplit⟩ := exists_append_leadingWord content
    rw [hsplit] at hcontent
    simp only [List.mem_append, not_or] at hcontent ⊢
    exact ⟨Text.not_mem_of_isName (isName_syntheticName (hnames _ howns) id) hc, hcontent.2.2⟩
  · exact hcontent

end renameContent

end Loop

/-! ## Several loops -/

/-- A content as it leaves the innermost of several iterations whose loop has its leading word for
an alias; it stays as it is if there is none. -/
def renameForOwner (within : List Iteration) (content : Text) : Text :=
  match within.find? fun i => leadingWord content ∈ i.loop.aliases with
  | none => content
  | some owner => owner.loop.renameContent owner.id content

/-- A fragment as it leaves several iterations, the innermost first. -/
def renamedThrough (within : List Iteration) (fragment : Text) : Text :=
  within.foldl (fun s i => i.loop.renameFragment i.id s) fragment

/-- The contexts of several iterations in front of an outer one, the innermost first. -/
def Node.aliasedAll {σ : Type} (within : List Iteration) (append : σ → Text → σ) :
    σ → Text → σ :=
  within.foldr (fun i append => aliased i.loop i.id append) append

/-- The outer context takes the fragment as it leaves the iterations. -/
lemma Node.aliasedAll_eq {σ : Type} (within : List Iteration) (append : σ → Text → σ) (c : σ)
    (fragment : Text) :
    aliasedAll within append c fragment = append c (renamedThrough within fragment) := by
  induction within generalizing fragment with
  | nil => rfl
  | cons i outer ih => exact ih (i.loop.renameFragment i.id fragment)

section within

variable {i : Iteration} {inner outer within : List Iteration} {content : Text}

/-- A content that no iteration owns stays as it is. -/
lemma renameForOwner_of_forall_not_mem
    (h : ∀ i ∈ within, leadingWord content ∉ i.loop.aliases) :
    renameForOwner within content = content := by
  have hnone : within.find? (fun i => leadingWord content ∈ i.loop.aliases) = none :=
    List.find?_eq_none.2 fun i hi => by simpa using h i hi
  rw [renameForOwner, hnone]

/-- The innermost iteration that owns a content renames it. -/
lemma renameForOwner_of_owner (hinner : ∀ j ∈ inner, leadingWord content ∉ j.loop.aliases)
    (howns : leadingWord content ∈ i.loop.aliases) :
    renameForOwner (inner ++ i :: outer) content = i.loop.renameContent i.id content := by
  have hsome : (inner ++ i :: outer).find? (fun i => leadingWord content ∈ i.loop.aliases) =
      some i := by
    refine List.find?_eq_some_iff_append.2 ⟨by simpa using howns, inner, outer, rfl, ?_⟩
    exact fun j hj => by simpa using hinner j hj
  rw [renameForOwner, hsome]

/-- An iteration that does not own a content leaves it to those around. -/
lemma renameForOwner_cons_of_not_mem (h : leadingWord content ∉ i.loop.aliases) :
    renameForOwner (i :: outer) content = renameForOwner outer content := by
  rw [renameForOwner, renameForOwner, List.find?_cons_of_neg (by simpa using h)]

variable (haliases : ∀ i ∈ within, ∀ a ∈ i.loop.aliases,
  Text.isName a = true ∧ isReserved a = false)

include haliases

/-- The iterations around leave the name of an entry alone. -/
lemma renameForOwner_syntheticName {name : Text} (hname : Text.isName name = true) (id : Nat)
    (content : Text) :
    renameForOwner within (syntheticName name id ++ behindWord content) =
      syntheticName name id ++ behindWord content := by
  have hsynthetic := isName_syntheticName hname id
  have htrim := Text.trimStart_name_append hsynthetic (behindWord content)
  refine renameForOwner_of_forall_not_mem fun i hi hmem => ?_
  rw [(leadingWord_of_trimStart hsynthetic htrim endsAlias_behindWord).1] at hmem
  exact syntheticName_ne_of_not_reserved (haliases i hi _ hmem).2 name id rfl

end within

/-- **A content that an iteration has renamed is left alone by those around.** -/
theorem renameForOwner_renameContent {i : Iteration} {outer : List Iteration}
    (haliases : ∀ j ∈ i :: outer, ∀ a ∈ j.loop.aliases,
      Text.isName a = true ∧ isReserved a = false) (content : Text) :
    renameForOwner outer (i.loop.renameContent i.id content) =
      renameForOwner (i :: outer) content := by
  obtain ⟨hi, houter⟩ := List.forall_mem_cons.1 haliases
  have hrename := Loop.renameContent_eq (fun a ha => (hi a ha).1) i.id content
  by_cases howns : leadingWord content ∈ i.loop.aliases
  · have howner : renameForOwner (i :: outer) content = i.loop.renameContent i.id content :=
      @renameForOwner_of_owner i [] outer content nofun howns
    rw [if_pos howns] at hrename
    rw [howner, hrename, renameForOwner_syntheticName houter (hi _ howns).1]
  · rw [if_neg howns] at hrename
    rw [hrename, renameForOwner_cons_of_not_mem howns]

/-! ### Fragments -/

open Delimiters

/-- A renamed content has nothing that closes or escapes a token. -/
lemma closed_renameContent_of_aliases {l : Loop} (hnames : ∀ a ∈ l.aliases, Text.isName a = true)
    {s : Text} (hescape : '\\' ∉ s) (id : Nat) : ∀ content ∈ placeholder.tokens s,
      '}' ∉ l.renameContent id content ∧ '\\' ∉ l.renameContent id content := by
  intro content hcontent
  obtain ⟨hclose, hslash⟩ := closed_of_mem_tokens hescape content hcontent
  exact ⟨Loop.not_mem_renameContent hnames (by decide) id hclose,
    Loop.not_mem_renameContent hnames (by decide) id hslash⟩

/-- **A fragment as it leaves several iterations** is the fragment with every placeholder renamed
for its owner. -/
theorem division_renamed {within : List Iteration}
    (haliases : ∀ i ∈ within, ∀ a ∈ i.loop.aliases,
      Text.isName a = true ∧ isReserved a = false) {s : Text} (hescape : '\\' ∉ s) :
    '\\' ∉ renamedThrough within s ∧ placeholder.division (renamedThrough within s) =
      (placeholder.division s).mapContents (renameForOwner within) := by
  induction within generalizing s with
  | nil =>
      refine ⟨hescape, ?_⟩
      change placeholder.division s = (placeholder.division s).mapContents id
      simp [Division.mapContents]
  | cons i outer ih =>
      obtain ⟨hi, houter⟩ := List.forall_mem_cons.1 haliases
      have hclosed := closed_renameContent_of_aliases (fun a ha => (hi a ha).1) hescape i.id
      have hstep : placeholder.division (i.loop.renameFragment i.id s) =
          (placeholder.division s).mapContents (i.loop.renameContent i.id) :=
        division_rewritten (by decide) hescape hclosed
      have hslash : '\\' ∉ i.loop.renameFragment i.id s :=
        not_mem_rewritten hescape hclosed (by decide)
      obtain ⟨hescape', hdivision⟩ := ih houter hslash
      refine ⟨hescape', hdivision.trans ?_⟩
      rw [hstep, Division.mapContents_mapContents]
      simp only [renameForOwner_renameContent haliases]

/-- **Every placeholder is renamed once, by the innermost loop that owns it.** A fragment without
backslashes that is written in several loops reaches the context around them as another fragment.
The two are the same literal text with placeholders in the same places. A placeholder whose leading
word is an alias of some loop is renamed as the innermost such loop does it: the word becomes the
name for the entry, and the rest stays. Every other placeholder stays as it is. -/
theorem renamed_by_owner {within : List Iteration}
    (haliases : ∀ i ∈ within, ∀ a ∈ i.loop.aliases,
      Text.isName a = true ∧ isReserved a = false) {s : Text} (hescape : '\\' ∉ s) :
    ∃ s' : Text,
      (∀ (σ : Type) (append : σ → Text → σ) (c : σ),
        Node.aliasedAll within append c s = append c s') ∧
      s = (placeholder.division s).fill ((placeholder.tokens s).map placeholder.wrap) ∧
      s' = (placeholder.division s).fill ((placeholder.tokens s).map fun content =>
        placeholder.wrap (renameForOwner within content)) ∧
      placeholder.division s' = (placeholder.division s).mapContents (renameForOwner within) ∧
      ∀ content ∈ placeholder.tokens s,
        ((∀ i ∈ within, leadingWord content ∉ i.loop.aliases) →
          renameForOwner within content = content) ∧
        ∀ inner i outer, within = inner ++ i :: outer →
          (∀ j ∈ inner, leadingWord content ∉ j.loop.aliases) →
          leadingWord content ∈ i.loop.aliases →
          renameForOwner within content = i.loop.renameContent i.id content ∧
          renameForOwner within content =
            syntheticName (leadingWord content) i.id ++ behindWord content ∧
          ∃ blanks : Text, blanks.all Text.isBlank = true ∧
            content = blanks ++ (leadingWord content ++ behindWord content) := by
  obtain ⟨hescape', hdivision⟩ := division_renamed haliases hescape
  have hfill {t : Text} (ht : '\\' ∉ t) :
      t = (placeholder.division t).fill ((placeholder.tokens t).map placeholder.wrap) :=
    (replaceAll_wrap placeholder ht).symm.trans (replaceAll_eq _ _ _)
  have htokens : placeholder.tokens (renamedThrough within s) =
      (placeholder.tokens s).map (renameForOwner within) := by
    rw [← contents_division, hdivision, Division.contents_mapContents, contents_division]
  have hrenamed := hfill hescape'
  rw [hdivision, Division.fill_mapContents, htokens, List.map_map] at hrenamed
  refine ⟨renamedThrough within s, fun σ append c => Node.aliasedAll_eq within append c s,
    hfill hescape, hrenamed, hdivision, fun content _ => ⟨renameForOwner_of_forall_not_mem, ?_⟩⟩
  rintro inner i outer rfl hinner howns
  have howner : renameForOwner (inner ++ i :: outer) content =
      i.loop.renameContent i.id content := renameForOwner_of_owner hinner howns
  have hi := haliases i (List.mem_append_right _ List.mem_cons_self)
  refine ⟨howner, howner.trans ?_, exists_append_leadingWord content⟩
  rw [Loop.renameContent_eq (fun a ha => (hi a ha).1), if_pos howns]

/-- Two loops share an alias, another alias is an underscore, and the last placeholder is left
open. -/
theorem renamed_by_owner_shared :
    let inner : Iteration :=
      ⟨{ collection := "xs".toList, item := some "x".toList, index := some "i".toList },
        ⟨.integer 0, .null⟩, 7⟩
    let outer : Iteration :=
      ⟨{ collection := "rows".toList, item := some "x".toList, index := some "_".toList },
        ⟨.integer 0, .null⟩, 4⟩
    let s : Text := "#\x7b x.id\x7d #\x7bi\x7d#\x7b_\x7d, #\x7bxs\x7d #\x7bx".toList
    let s' : Text :=
      "#\x7b__gen_x_7.id\x7d #\x7b__gen_i_7\x7d#\x7b__gen___4\x7d, #\x7bxs\x7d #\x7bx".toList
    '\\' ∉ s ∧
      Node.aliasedAll [inner, outer] (fun c fragment => c ++ [fragment]) [] s = [s'] := by
  intro inner outer s s'
  have haliases : ∀ i ∈ [inner, outer], ∀ a ∈ i.loop.aliases,
      Text.isName a = true ∧ isReserved a = false := by decide
  have hescape : '\\' ∉ s := by decide
  obtain ⟨t, hcontext, -, ht, -, -⟩ := renamed_by_owner haliases hescape
  refine ⟨hescape, ?_⟩
  rw [hcontext, ht]
  decide +kernel

end DynamicSql
