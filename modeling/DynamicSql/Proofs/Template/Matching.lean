import DynamicSql.Proofs.Pattern.Anchored
import DynamicSql.Proofs.Template.Filtering

/-!
# Matching and filtering

The method `matches` and the filter of a configuration put the same anchors around a pattern. The
method asks whether there is a match, the filter whether the leftmost match is the whole text.

* `matchers_agree`: these are the same for a pattern that is one without the anchors.
* `matchers_disagree`: a pattern that closes the group in which it stands gets out of the anchors.
-/

namespace DynamicSql.Template

/-- What the method `matches` answers. -/
lemma eval_matches {b : Bindings} {object pattern : Expr} {s source : Text} {p : Pattern}
    (hobject : object.eval b = .ok (.string s)) (hpattern : pattern.eval b = .ok (.string source))
    (hp : Pattern.compile? (Pattern.anchored source) = some p) :
    (Expr.call object "matches".toList [pattern]).eval b = .ok (.boolean (p.find? s).isSome) := by
  have hlookup : Table.lookup "matches".toList Eval.methodNames = some .matchesPattern := by
    decide
  simp only [Expr.eval, Expr.evalAll, hobject, hpattern, Except.bind, Except.map, Eval.call,
    hlookup, Eval.stringArgument, Eval.oneArgument, Eval.matchesPattern, hp, Pattern.isMatch]

/-- What a filter lets through. -/
lemma filtered_eq_ok_iff {p : Pattern} {s : Text} :
    Node.filtered (some p) s = .ok s ↔ p.find? s = some (0, s.length) := by
  rw [Node.filtered, Pattern.matchesWhole]
  split
  · simp_all
  · simp_all

/-- **The two matchers.** A template that has been built with a filter has this filter at every text,
and `matches` searches for the same pattern. The method accepts a string if the pattern is found in
it, the filter if what is found first is the whole string. So what the filter lets through is
accepted by the method. If the source is a pattern without the anchors, the pattern is found only
as a whole, and the two agree on every string. -/
theorem matchers_agree {directives : List Directive} {c : Configuration} {source : Text}
    {t : Template} (hfilter : c.filter = some source) (hbuild : build directives c = .ok t)
    {b : Bindings} {object pattern : Expr} {s : Text} (hobject : object.eval b = .ok (.string s))
    (hpattern : pattern.eval b = .ok (.string source)) :
    let call := (Expr.call object "matches".toList [pattern]).eval b
    ∃ p, Pattern.compile? (Pattern.anchored source) = some p ∧
      (∀ text ∈ t.root.texts, text.2 = some p) ∧
      call = .ok (.boolean (p.find? s).isSome) ∧
      (Node.filtered (some p) s = .ok s ↔ p.find? s = some (0, s.length)) ∧
      (Node.filtered (some p) s = .ok s → call = .ok (.boolean true)) ∧
      ((Pattern.Syntax.ofText? source).isSome = true →
        (call = .ok (.boolean true) ↔ Node.filtered (some p) s = .ok s)) := by
  obtain ⟨scope, nodes, hscope, hnodes, hroot, -⟩ := of_build_eq_ok hbuild
  obtain ⟨p, hp, rfl⟩ := filter_of_ofConfiguration hfilter hscope
  have htexts : ∀ text ∈ t.root.texts, text.2 = some p := by
    rw [hroot, Node.texts, texts_of_buildNodes directives hnodes]
    rintro text htext
    obtain ⟨content, -, rfl⟩ := List.mem_map.1 htext
    rfl
  have hcall := eval_matches hobject hpattern hp
  refine ⟨p, hp, htexts, hcall, filtered_eq_ok_iff, fun h => ?_, fun hsource => ?_⟩
  · rw [hcall, filtered_eq_ok_iff.1 h, Option.isSome_some]
  · rw [hcall, filtered_eq_ok_iff]
    constructor
    · intro h
      have hsome : (p.find? s).isSome = true := by simpa using h
      obtain ⟨found, hfound⟩ := Option.isSome_iff_exists.1 hsome
      rw [hfound, Pattern.find?_anchored hsource hp hfound]
    · intro h
      rw [h, Option.isSome_some]

/-- What a search finds, if it can be computed together with the pattern. -/
lemma find?_of_compile? {source s : Text} {p : Pattern} {found : Option (Nat × Nat)}
    (hp : Pattern.compile? source = some p)
    (h : (Pattern.compile? source).map (·.find? s) = some found) : p.find? s = found := by
  rw [hp] at h
  exact Option.some.inj h

/-- The second alternative is all of the text, although the first one is found before it. -/
theorem matchers_agree_alternatives :
    let source := "a|ab".toList
    let text := "ORDER BY $\x7bc\x7d".toList
    ∃ t p, build [.text text] { filter := some source } = .ok t ∧ t.root.texts = [(text, some p)] ∧
      (Expr.call (.string "ab".toList) "matches".toList [.string source]).eval Table.empty =
        .ok (.boolean true) ∧
      Node.filtered (some p) "ab".toList = .ok "ab".toList := by
  intro source text
  have hsome : (Pattern.compile? (Pattern.anchored source)).isSome = true := by decide +kernel
  obtain ⟨p, hp⟩ := Option.isSome_iff_exists.1 hsome
  have hscope : Scope.ofConfiguration { filter := some source } = .ok ⟨Table.empty, some p⟩ := by
    simp only [Scope.ofConfiguration, hp]
  have htext : Properties.substitute Table.empty text = text := by decide +kernel
  have hnodes : buildNodes ⟨Table.empty, some p⟩ [.text text] = .ok [.text text (some p)] := by
    simp only [buildNodes, buildNode, htext]
    rfl
  have hparsed : firstUnparsable? (Node.mixed [.text text (some p)]).expressions = none := by
    have htokens : Delimiters.substitution.tokens text = ["c".toList] := by decide +kernel
    rw [firstUnparsable?_eq_none_iff]
    simp only [Node.expressions, Node.listExpressions, htokens, List.append_nil,
      List.forall_mem_singleton]
    exact ⟨_, Path.parse_name (by decide)⟩
  have hbuild := build_of_nodes hscope hnodes
  rw [hparsed] at hbuild
  obtain ⟨p', hp', htexts, -, hfilter, -, hagree⟩ :=
    matchers_agree rfl hbuild
      (rfl : (Expr.string "ab".toList).eval Table.empty = .ok (.string "ab".toList))
      (rfl : (Expr.string source).eval Table.empty = .ok (.string source))
  obtain rfl : p = p' := Option.some.inj (hp.symm.trans hp')
  have hfind : p.find? "ab".toList = some (0, 2) := find?_of_compile? hp (by decide +kernel)
  have haccept := hfilter.2 hfind
  exact ⟨_, p, hbuild, rfl, (hagree (by decide +kernel)).2 haccept, haccept⟩

/-- **A pattern that closes the group** around it gets out of the anchors: it matches a part of a
text, so the method accepts the text and the filter does not. -/
theorem matchers_disagree :
    let source := "a)|(?:b".toList
    let s := "ax".toList
    ∃ p, Scope.ofConfiguration { filter := some source } = .ok ⟨Table.empty, some p⟩ ∧
      (Expr.call (.string s) "matches".toList [.string source]).eval Table.empty =
        .ok (.boolean true) ∧
      Node.filtered (some p) s = .error (.rejected s (Pattern.anchored source)) := by
  intro source s
  have hsome : (Pattern.compile? (Pattern.anchored source)).isSome = true := by decide +kernel
  obtain ⟨p, hp⟩ := Option.isSome_iff_exists.1 hsome
  have hfind : p.find? s = some (0, 1) := find?_of_compile? hp (by decide +kernel)
  refine ⟨p, by simp only [Scope.ofConfiguration, hp], ?_, ?_⟩
  · rw [eval_matches rfl rfl hp, hfind]
    rfl
  · rw [Node.filtered, Pattern.matchesWhole, hfind, source_of_compile? hp]
    rfl

end DynamicSql.Template
