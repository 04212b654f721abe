import DynamicSql.Node.Trim
import DynamicSql.Proofs.Text.Ascii

/-!
# Trimmed ends

The first override that leads a text, without regard to ASCII case, has a span at the start of the
text, and likewise the first one that ends it. What is left is the text between the two spans, with
lead and tail around it.

* `apply_normalized`: what a rule makes of a text, by the two spans.
* `apply_spans`: the text between the spans comes out, unless they overlap and the rule has a lead.
  Then bytes of the lead are cut off, as the lead already stands before the text when its end is cut
  (`apply_spans_overlap`).
-/

namespace DynamicSql.TrimRule

open Text (upperAscii trim utf8Length)

/-! ## Spans -/

/-- The start of a text that is an override without regard to ASCII case. -/
def startSpan? (s override : Text) : Option Text :=
  if upperAscii (s.take override.length) = upperAscii override then some (s.take override.length)
  else none

/-- The end of a text that is an override without regard to ASCII case. -/
def endSpan? (s override : Text) : Option Text :=
  if upperAscii (s.drop (s.length - override.length)) = upperAscii override then
    some (s.drop (s.length - override.length))
  else none

/-- The end of a text that is an override, or else an override without the white space around it. -/
def looseEndSpan? (s override : Text) : Option Text :=
  (endSpan? s override).or (if trim override = [] then none else endSpan? s (trim override))

/-- The span of the first override that leads a text; nothing if there is none. -/
def leadSpan (overrides : List Text) (s : Text) : Text :=
  ((overrides.filter (!·.isEmpty)).findSome? (startSpan? s)).getD []

/-- The span of the first override that ends a text; nothing if there is none. -/
def tailSpan (overrides : List Text) (s : Text) : Text :=
  ((overrides.filter (!·.isEmpty)).findSome? (looseEndSpan? s)).getD []

variable {s override : Text}

/-- An override that leads a text has its span there. -/
lemma isPrefixOf_upperAscii :
    (upperAscii override).isPrefixOf (upperAscii s) = true ↔
      upperAscii (s.take override.length) = upperAscii override := by
  rw [List.isPrefixOf_iff_prefix, List.prefix_iff_eq_take, Text.length_upperAscii,
    Text.upperAscii_take, eq_comm]

/-- An override that ends a text has its span there. -/
lemma isSuffixOf_upperAscii :
    (upperAscii override).isSuffixOf (upperAscii s) = true ↔
      upperAscii (s.drop (s.length - override.length)) = upperAscii override := by
  rw [List.isSuffixOf_iff_suffix, List.suffix_iff_eq_drop, Text.length_upperAscii,
    Text.length_upperAscii, Text.upperAscii_drop, eq_comm]

/-- The span at the start of a text is a start of it. -/
lemma isPrefix_leadSpan (overrides : List Text) (s : Text) : leadSpan overrides s <+: s := by
  unfold leadSpan
  cases h : (overrides.filter (!·.isEmpty)).findSome? (startSpan? s) with
  | none => exact List.nil_prefix
  | some span =>
      obtain ⟨override, -, hspan⟩ := List.exists_of_findSome?_eq_some h
      unfold startSpan? at hspan
      split at hspan
      · obtain rfl := Option.some.inj hspan
        exact List.take_prefix _ _
      · cases hspan

/-- The span at the end of a text is an end of it. -/
lemma isSuffix_tailSpan (overrides : List Text) (s : Text) : tailSpan overrides s <:+ s := by
  have hend (override : Text) : ∀ span ∈ endSpan? s override, span <:+ s := by
    intro span h
    unfold endSpan? at h
    split at h
    · obtain rfl := Option.some.inj h
      exact List.drop_suffix _ _
    · cases h
  unfold tailSpan
  cases h : (overrides.filter (!·.isEmpty)).findSome? (looseEndSpan? s) with
  | none => exact List.nil_suffix
  | some span =>
      obtain ⟨override, -, hspan⟩ := List.exists_of_findSome?_eq_some h
      rw [looseEndSpan?, Option.or_eq_some_iff] at hspan
      rcases hspan with hspan | ⟨-, hspan⟩
      · exact hend override span hspan
      · split at hspan
        · cases hspan
        · exact hend (trim override) span hspan

/-! ## Overrides in upper case -/

lemma normalizeOverrides_eq (overrides : List Text) :
    normalizeOverrides overrides = (overrides.filter (!·.isEmpty)).map upperAscii := by
  have hempty : (fun s : Text => !s.isEmpty) ∘ upperAscii = fun s => !s.isEmpty := by
    funext s
    cases s <;> rfl
  rw [normalizeOverrides, List.filter_map, hempty]

/-- The override that leads a text is dropped with its span. -/
lemma dropLead_normalizeOverrides (overrides : List Text) (s : Text) :
    dropLead (normalizeOverrides overrides) (upperAscii s) s =
      s.drop (leadSpan overrides s).length := by
  rw [normalizeOverrides_eq, leadSpan, dropLead]
  induction overrides.filter (!·.isEmpty) with
  | nil => rfl
  | cons override rest ih =>
      rw [List.map_cons, List.find?_cons, List.findSome?_cons, startSpan?]
      cases h : (upperAscii override).isPrefixOf (upperAscii s) with
      | true =>
          have hlen : override.length ≤ s.length := by
            simpa using (List.isPrefixOf_iff_prefix.1 h).length_le
          rw [if_pos (isPrefixOf_upperAscii.1 h)]
          simp [hlen]
      | false =>
          have hno := mt isPrefixOf_upperAscii.2 (Bool.eq_false_iff.1 h)
          rw [if_neg hno]
          exact ih

/-- An override that ends a text is its span there in upper case. -/
lemma map_endSpan? (s override : Text) :
    (endSpan? s override).map upperAscii =
      if (upperAscii override).isSuffixOf (upperAscii s) then some (upperAscii override)
      else none := by
  unfold endSpan?
  by_cases h : upperAscii (s.drop (s.length - override.length)) = upperAscii override
  · rw [if_pos h, if_pos (isSuffixOf_upperAscii.2 h), Option.map_some, h]
  · rw [if_neg h, if_neg (mt isSuffixOf_upperAscii.1 h), Option.map_none]

/-- What is found of an override at the end of a text is its span in upper case. -/
lemma endingOf?_upperAscii (s override : Text) :
    endingOf? (upperAscii s) (upperAscii override) = (looseEndSpan? s override).map upperAscii := by
  have hempty : (upperAscii (trim override)).isEmpty = decide (trim override = []) := by
    cases trim override <;> rfl
  rw [looseEndSpan?, Option.map_or, map_endSpan?, endingOf?, Text.trim_upperAscii, hempty]
  split
  · rfl
  · by_cases h : trim override = []
    · simp [h]
    · simp [h, map_endSpan?]

/-! ## Bytes at the end -/

lemma dropBytes_zero (s : Text) : dropBytes 0 s = s := by
  simp [dropBytes, dropBytes.go]

/-- As many bytes as a text takes are cut off with that text. -/
lemma dropBytes_append (s e : Text) : dropBytes (utf8Length e) (s ++ e) = s := by
  have hgo (e s : Text) : dropBytes.go (utf8Length e) (e ++ s) = some s := by
    induction e with
    | nil => rw [Text.utf8Length_nil, List.nil_append, dropBytes.go]
    | cons c e ih =>
        have hpos := c.utf8Size_pos
        obtain ⟨n, hn⟩ : ∃ n, c.utf8Size + utf8Length e = n + 1 :=
          ⟨c.utf8Size + utf8Length e - 1, by omega⟩
        have hsize : n + 1 - c.utf8Size = utf8Length e := by omega
        rw [Text.utf8Length_cons, hn, List.cons_append, dropBytes.go, if_pos (by omega), hsize, ih]
  rw [dropBytes, List.reverse_append, ← Text.utf8Length_reverse, hgo, Option.elim,
    List.reverse_reverse]

/-- Nothing is left of a text that takes no more bytes than are cut off. -/
lemma dropBytes_of_le {n : Nat} {s : Text} (h : utf8Length s ≤ n) : dropBytes n s = [] := by
  have hgo (n : Nat) (s : Text) (h : utf8Length s ≤ n) : dropBytes.go n s = some [] := by
    induction s generalizing n with
    | nil => cases n <;> rfl
    | cons c s ih =>
        rw [Text.utf8Length_cons] at h
        have hpos := c.utf8Size_pos
        obtain ⟨n, rfl⟩ : ∃ m, n = m + 1 := ⟨n - 1, by omega⟩
        rw [dropBytes.go, if_pos (by omega), ih _ (by omega)]
  rw [dropBytes, hgo n s.reverse (by rwa [Text.utf8Length_reverse])]
  rfl

/-- The override that ends a text is dropped by as many bytes as its span takes. -/
lemma dropTail_normalizeOverrides (overrides : List Text) (s t : Text) :
    dropTail (normalizeOverrides overrides) (upperAscii s) t =
      dropBytes (utf8Length (tailSpan overrides s)) t := by
  have hpoint : endingOf? (upperAscii s) ∘ upperAscii =
      Option.map upperAscii ∘ looseEndSpan? s := funext fun o => endingOf?_upperAscii s o
  rw [dropTail, normalizeOverrides_eq, List.findSome?_map, hpoint, ← List.map_findSome?, tailSpan]
  cases (overrides.filter (!·.isEmpty)).findSome? (looseEndSpan? s) with
  | none => exact (dropBytes_zero t).symm
  | some span => exact congrArg (dropBytes · t) (Text.utf8Length_upperAscii span)

/-! ## Rules -/

/-- The rule with its overrides as they are compared. -/
def normalized (rule : TrimRule) : TrimRule :=
  { rule with
    leadOverrides := normalizeOverrides rule.leadOverrides
    tailOverrides := normalizeOverrides rule.tailOverrides }

/-- **What a rule makes of a text**: the span at the start goes, the lead is put there, and then as
many bytes are cut off as the span at the end takes. -/
theorem apply_normalized (rule : TrimRule) {body : Text} (h : trim body ≠ []) :
    rule.normalized.apply body = addTail rule.tail
      (dropBytes (utf8Length (tailSpan rule.tailOverrides (trim body)))
        (addLead rule.lead
          ((trim body).drop (leadSpan rule.leadOverrides (trim body)).length))) := by
  have hempty : (trim body).isEmpty = false := List.isEmpty_eq_false_iff.2 h
  unfold apply normalized
  simp only [hempty, Bool.false_eq_true, if_false, dropLead_normalizeOverrides,
    dropTail_normalizeOverrides]

/-- The lead does not ask for what follows. -/
lemma addLead_append (lead : Option Text) (s t : Text) :
    addLead lead (s ++ t) = addLead lead s ++ t := by
  cases lead with
  | none => rfl
  | some lead => simp [addLead]

/-- What is between two spans that do not overlap is left. -/
lemma apply_of_split (rule : TrimRule) {body core : Text} (h : trim body ≠ [])
    (hsplit : trim body = leadSpan rule.leadOverrides (trim body) ++ core ++
      tailSpan rule.tailOverrides (trim body)) :
    rule.normalized.apply body = addTail rule.tail (addLead rule.lead core) := by
  rw [List.append_assoc] at hsplit
  have hdrop : (trim body).drop (leadSpan rule.leadOverrides (trim body)).length =
      core ++ tailSpan rule.tailOverrides (trim body) :=
    (congrArg (List.drop _) hsplit).trans List.drop_left
  rw [apply_normalized rule h, hdrop, addLead_append, dropBytes_append]

/-- A rule makes nothing of white space. -/
lemma apply_of_blank (rule : TrimRule) {body : Text} (h : trim body = []) :
    rule.apply body = [] := by
  unfold apply
  rw [h]
  rfl

/-- **What is left between two spans.** The trimmed text is the span at its start, a core, and the
span at its end, which is shortened if the two overlap, and nothing is between them then. The result
is the core with lead and tail around it, if the span was not shortened or there is no lead. If it
was, as many bytes as the whole span takes are cut off behind the lead and the shortened span, so
that they are bytes of the lead, too. -/
theorem apply_spans (rule : TrimRule) (body : Text) :
    let s := trim body
    let x := leadSpan rule.leadOverrides s
    let y := tailSpan rule.tailOverrides s
    (s = [] → rule.normalized.apply body = []) ∧
      (s ≠ [] → ∃ core y', s = x ++ core ++ y' ∧ y' <:+ y ∧ (y' = y ∨ core = []) ∧
        (y' = y ∨ rule.lead = none →
          rule.normalized.apply body = addTail rule.tail (addLead rule.lead core)) ∧
        (∀ lead ∈ rule.lead, y' ≠ y →
          rule.normalized.apply body =
            addTail rule.tail (dropBytes (utf8Length y) (lead ++ ' ' :: y')))) := by
  intro s x y
  refine ⟨apply_of_blank rule.normalized, fun hs => ?_⟩
  have hx : s = x ++ s.drop x.length := (List.prefix_iff_eq_append.1 (isPrefix_leadSpan _ s)).symm
  have hy : y <:+ s := isSuffix_tailSpan _ s
  rw [apply_normalized rule hs]
  change ∃ core y', s = x ++ core ++ y' ∧ y' <:+ y ∧ (y' = y ∨ core = []) ∧
    (_ → addTail _ (dropBytes _ (addLead _ (s.drop x.length))) = _) ∧
    ∀ lead ∈ rule.lead, _ → addTail _ (dropBytes _ (addLead _ (s.drop x.length))) = _
  by_cases hlen : y.length ≤ (s.drop x.length).length
  · -- the spans do not overlap
    obtain ⟨core, hcore⟩ :=
      List.suffix_of_suffix_length_le hy (List.drop_suffix x.length s) hlen
    refine ⟨core, y, ?_, List.suffix_rfl, .inl rfl, fun _ => ?_, fun _ _ hne => absurd rfl hne⟩
    · rw [List.append_assoc, hcore]
      exact hx
    · rw [← hcore, addLead_append]
      exact congrArg (addTail rule.tail) (dropBytes_append _ y)
  · have hsuffix : s.drop x.length <:+ y :=
      List.suffix_of_suffix_length_le (List.drop_suffix x.length s) hy (by omega)
    refine ⟨[], s.drop x.length, ?_, hsuffix, .inr rfl, ?_, ?_⟩
    · rw [List.append_nil]
      exact hx
    · rintro (heq | hlead)
      · exact absurd (heq ▸ Nat.le_refl _) hlen
      · rw [hlead]
        exact congrArg (addTail rule.tail) (dropBytes_of_le (Text.utf8Length_le_of_suffix hsuffix))
    · intro lead hlead _
      rw [Option.mem_def.1 hlead]
      rfl

/-- One override is all of the text and stands at both ends of it. The lead goes in, and then as
many bytes as the override has are cut off: a space and two letters of the lead. -/
theorem apply_spans_overlap :
    let rule : TrimRule :=
      { lead := some "WHERE".toList
        leadOverrides := ["AND".toList]
        tailOverrides := ["AND".toList] }
    let s := trim "AND".toList
    leadSpan rule.leadOverrides s = s ∧ tailSpan rule.tailOverrides s = s ∧
      rule.normalized.apply "AND".toList = "WHE".toList ∧
      ∀ core, rule.normalized.apply "AND".toList ≠ addTail rule.tail (addLead rule.lead core) := by
  intro rule s
  have happly : rule.normalized.apply "AND".toList = "WHE".toList := by decide +kernel
  refine ⟨by decide +kernel, by decide +kernel, happly, fun core hcore => ?_⟩
  have hlength := congrArg List.length (happly.symm.trans hcore)
  simp [rule, addTail, addLead] at hlength

end DynamicSql.TrimRule
