import DynamicSql.Proofs.Expr.Completeness

/-!
# Parentheses in expressions

The parentheses of a text are those of its tokens: a parenthesis is a token of its own or stands in
a string, where it is the same parenthesis in the text and in what the string stands for, since
none is escaped (`parens_of_lexes`).
-/

namespace DynamicSql

namespace Text

/-- The parentheses in a text. -/
def parens (s : Text) : Text := s.filter fun c => c == '(' || c == ')'

variable {s t : Text}

@[simp] lemma parens_nil : parens [] = [] := rfl

@[simp] lemma parens_append : parens (s ++ t) = parens s ++ parens t := List.filter_append ..

lemma parens_cons (c : Char) : parens (c :: s) = parens [c] ++ parens s :=
  parens_append (s := [c])

/-- Characters of a kind that has no parentheses may be dropped. -/
lemma parens_dropWhile {kind : Char → Bool} (hopen : kind '(' = false) (hclose : kind ')' = false) :
    parens (s.dropWhile kind) = parens s := by
  induction s with
  | nil => rfl
  | cons c s ih =>
      rw [List.dropWhile_cons]
      split
      · next hc =>
        have hne : c ≠ '(' ∧ c ≠ ')' := by
          constructor
          · rintro rfl
            exact absurd hc (by simp [hopen])
          · rintro rfl
            exact absurd hc (by simp [hclose])
        rw [ih, parens_cons]
        simp [parens, hne]
      · rfl

/-- No parentheses are trimmed off. -/
lemma parens_trim (s : Text) : parens (trim s) = parens s := by
  have hend (s : Text) : parens (trimEnd s) = parens s := by
    have hreverse : parens (s.reverse.dropWhile isBlank) = parens s.reverse :=
      parens_dropWhile rfl rfl
    simp only [parens, List.filter_reverse] at hreverse
    rw [trimEnd, parens, List.filter_reverse, hreverse, List.reverse_reverse, parens]
  rw [trim, hend]
  exact parens_dropWhile rfl rfl

end Text

/-- The parentheses of a token. -/
def Token.parens : Token → Text
  | leftParen => ['(']
  | rightParen => [')']
  | string s => Text.parens s
  | _ => []

/-! ## One token -/

namespace Lexed

open Text

variable {start stop : Nat} {s rest content : Text} {t : Token}

/-- The parentheses of a symbol. -/
lemma parens_of_symbol? (h : symbol? s = some (t, rest)) :
    parens s = t.parens ++ parens rest := by
  unfold symbol? at h
  split at h <;> cases h <;> rfl

/-- What is escaped is no parenthesis, nor is the letter that stands for it. -/
lemma parens_of_escape? {e c : Char} (h : StringBody.escape? e = some c) :
    parens [e] = [] ∧ parens [c] = [] := by
  unfold StringBody.escape? at h
  split at h <;> cases h <;> exact ⟨rfl, rfl⟩

/-- The parentheses up to the end of a string are those it stands for. -/
lemma parens_of_read {quote : Char} (hquote : quote = '"' ∨ quote = '\'')
    (h : StringBody.read quote s = .closed content rest) :
    parens s = parens content ++ parens rest := by
  fun_induction StringBody.read quote s generalizing content with
  | case1 => cases h
  | case2 s =>
      cases h
      rw [parens_cons]
      rcases hquote with rfl | rfl <;> rfl
  | case3 => cases h
  | case4 e s c hescape _ ih =>
      obtain ⟨content', hread⟩ := StringBody.exists_of_cons_eq h
      rw [hread] at h
      cases h
      obtain ⟨he, hc⟩ := parens_of_escape? hescape
      rw [parens_cons, parens_cons (s := s), he, parens_cons (s := content'), hc, ih hread]
      rfl
  | case5 => cases h
  | case6 c s _ _ ih =>
      obtain ⟨content', hread⟩ := StringBody.exists_of_cons_eq h
      rw [hread] at h
      cases h
      rw [parens_cons, parens_cons (s := content'), ih hread, List.append_assoc]

/-- There are no parentheses in a number. -/
lemma parens_numberParts (s : Text) : parens (numberParts s).2.2 = parens s := by
  have hdigits (s : Text) : parens (s.dropWhile Char.isDigit) = parens s := parens_dropWhile rfl rfl
  rw [← hdigits s, numberParts]
  split
  · next d rest heq =>
    rw [heq, parens_cons]
    split
    · simp only [hdigits]
      rfl
    · exact parens_cons _
  · rfl

/-- Words have no parentheses. -/
lemma parens_wordToken (word : Text) : (wordToken word).parens = [] := by
  have hkeywords : ∀ e ∈ keywords, e.2.parens = [] := by decide
  rw [wordToken]
  rcases hlookup : Table.lookup word keywords with _ | t
  · rfl
  · exact hkeywords _ (Table.mem_of_lookup hlookup)

/-- The parentheses of the token that leads a text. -/
lemma parens_of_leads (h : Leads s t rest) : parens s = t.parens ++ parens rest := by
  cases h with
  | symbol h => exact parens_of_symbol? h
  | string hquote h =>
      rw [parens_cons, parens_of_read hquote h]
      rcases hquote with rfl | rfl <;> rfl
  | word =>
      rw [parens_wordToken, parens_dropWhile (by decide) (by decide)]
      rfl
  | pointed _ h | whole _ h =>
      rw [← parens_numberParts, h]
      rfl

/-- **The parentheses of the next token** and those of what follows it are those of the text. -/
lemma parens_of_next (h : next start s = .token t stop rest) :
    parens s = t.parens ++ parens rest := by
  have hblank : parens (trimStart s) = parens s := parens_dropWhile rfl rfl
  rw [← hblank]
  exact parens_of_leads (leads_of_ofStart h)

end Lexed

/-! ## All tokens -/

/-- **The parentheses of a text are those of its tokens.** -/
theorem Grammar.parens_of_lexes {start : Nat} {s : Text} {ts : List Token}
    (h : Lexes start s ts) : Text.parens s = ts.flatMap Token.parens := by
  induction h with
  | ended h =>
      rename_i s
      have hdropped : Text.parens (s.dropWhile Text.isBlank) = Text.parens s :=
        Text.parens_dropWhile rfl rfl
      have hblank := List.all_eq_true.1 (lexes_nil_iff.1 (.ended h))
      rw [← hdropped, List.dropWhile_eq_nil_iff.2 hblank]
      rfl
  | token h _ ih => rw [Lexed.parens_of_next h, ih, List.flatMap_cons]

end DynamicSql
