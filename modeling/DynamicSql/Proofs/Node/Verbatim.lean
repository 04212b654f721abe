import DynamicSql.Proofs.Delimited.Literal
import DynamicSql.Proofs.Node.Static

/-!
# Static text

Text with substitutions is scanned when it is run, and text without any is written as it is. A scan
would find nothing to replace in such a text, but it drops the backslashes before openings. So an
escape comes out with its backslash if there is no substitution beside it, and without if there is
one.

* `static_verbatim`: what static text is, what a scan would make of it, and what is written.
* `static_not_scanned`: an escape on which the two differ.
-/

namespace DynamicSql

open Delimiters

namespace Delimiters

variable {s t : Text}

/-- A scan that finds no token handles nothing. -/
lemma scanWith_of_literal {σ ε : Type} {d : Delimiters} (h : d.division s = Division.literal t)
    (handler : σ → Text → Except ε (Text × σ)) (state : σ) :
    d.scanWith handler state s = .ok (t, state) := by
  have htokens : (d.segments s).filterMap Segment.content? = [] := by
    rw [← Division.contents_ofSegments]
    exact congrArg Division.contents h
  rw [scanWith, renderWith_eq, htokens, ← division, h]
  simp only [handled, Except.map, Division.literal, Division.fill_mk_nil]

/-- A scan that finds no token fails for no replacement. -/
lemma scan_of_literal {ε : Type} {d : Delimiters} (h : d.division s = Division.literal t)
    (replace : Text → Except ε Text) : d.scan replace s = .ok t := by
  have htokens : d.tokens s = [] := by
    rw [← contents_division, h]
    rfl
  rw [scan_eq, htokens, h]
  simp only [List.mapM_nil, pure, Except.pure, Except.map, Division.literal, Division.fill_mk_nil]

end Delimiters

namespace Node

/-- **Static text is written with its escapes.** It is an escaped text, and behind that nothing or
an opening whose token does not end. A scan calls no handler and drops the backslashes of the escaped
part, and so would the splicing of values, whatever the filter is; but what is written in any
context is the text with them. The two are the same only if the escaped part has no opening. -/
theorem static_verbatim {content : Text} (h : isDynamicText content = false)
    (filter : Option Pattern) :
    ∃ l r, content = Text.escape substitution.opening l ++ r ∧ substitution.Unclosed r ∧
      (∀ {σ ε : Type} (handler : σ → Text → Except ε (Text × σ)) (state : σ),
        substitution.scanWith handler state content = .ok (l ++ r, state)) ∧
      (∀ b : Bindings, spliced b filter content = .ok (l ++ r)) ∧
      (∀ {σ : Type} (append : σ → Text → σ) (s : σ) (env : Env),
        (text content filter).runIn append (s, env) = (.ok true, (append s content, env))) ∧
      (content = l ++ r ↔ Text.cut? substitution.opening l = none) := by
  have htokens : substitution.tokens content = [] := by
    rwa [isDynamicText, hasToken, Bool.not_eq_false', List.isEmpty_iff] at h
  obtain ⟨l, r, hcontent, hr, hl⟩ := @exists_escape_append '$' (by decide) content htokens
  have hdivision : substitution.division content = Division.literal (l ++ r) := by
    rw [hcontent]
    exact @division_escape_append '$' l r (by decide) (by decide) hr hl
  refine ⟨l, r, hcontent, hr, scanWith_of_literal hdivision, fun b => scan_of_literal hdivision _,
    fun append s env => ?_, ?_⟩
  · rw [runIn_eq, Run.into, run, runText_of_static h]
    rfl
  · have hescape := @Text.escape_eq_self_iff substitution.opening
      (@noOverlap_opening '$' (by decide)) (List.cons_ne_nil _ _) l
    rw [hcontent, List.append_left_inj]
    exact hescape

/-- An escape, and a token that does not end behind it. The backslash in that stays in a scan. -/
theorem static_verbatim_open :
    let content : Text := "\\$\x7ba\x7d or $\x7bb or \\$\x7b".toList
    let scanned : Text := "$\x7ba\x7d or $\x7bb or \\$\x7b".toList
    isDynamicText content = false ∧ (∀ b : Bindings, spliced b none content = .ok scanned) ∧
      ∀ env, (text content none).runIn Fragment.append ([], env) = (.ok true, (content, env)) := by
  intro content scanned
  have hstatic : isDynamicText content = false := by decide +kernel
  obtain ⟨l, r, -, -, -, hspliced, hrun, -⟩ := static_verbatim hstatic none
  have hdivision : substitution.division content = Division.literal scanned := by decide +kernel
  have hout : scanned = l ++ r :=
    Except.ok.inj ((scan_of_literal hdivision _).symm.trans (hspliced (Bindings.ofCall .null none)))
  refine ⟨hstatic, hout ▸ hspliced, fun env => ?_⟩
  rw [hrun, Fragment.nil_append]

/-- An escape that stands by itself is not written as it would be scanned. -/
theorem static_not_scanned :
    ¬ ∀ (content : Text) (filter : Option Pattern) (env : Env), isDynamicText content = false →
      ∃ out, spliced env.bindings filter content = .ok out ∧
        (text content filter).run env = ⟨[out], env, .ok true⟩ := by
  intro h
  let content : Text := "\\$\x7ba\x7d".toList
  let env : Env := ⟨Bindings.ofCall .null none, 0⟩
  have hstatic : isDynamicText content = false := by decide +kernel
  have hdivision : substitution.division content = Division.literal "$\x7ba\x7d".toList := by
    decide +kernel
  obtain ⟨out, hspliced, hrun⟩ := h content none env hstatic
  have hscanned : "$\x7ba\x7d".toList = out :=
    Except.ok.inj ((scan_of_literal hdivision _).symm.trans hspliced)
  rw [run, runText_of_static hstatic] at hrun
  have hwritten : [content] = [out] := congrArg Outcome.written hrun
  rw [← hscanned] at hwritten
  exact absurd hwritten (by decide)

end Node

end DynamicSql
