import DynamicSql.Proofs.Expr.Completeness

/-!
# Positions in expressions

A position counts the characters that have been read. Reading an expression token by token comes
from position to position, and what is left at each of them is the text behind it
(`Reached.rest_eq`). So what a single reading finds in what is left, it finds in the text:

* `stop_of_next`, `next_eq_ended_iff`: a token ends behind its first character, and the expression
  where only white space is left.
* `describes_of_next`: at the position of an error stands what the error says.
* `positions_sound`: this is so at all positions that reading comes to, and these are the positions
  at which the tokens of the text are read.
-/

namespace DynamicSql

/-! ## What errors say -/

namespace LexError

/-- The position that an error gives. -/
def position : LexError → Nat
  | unexpectedChar _ p => p
  | unterminatedString p => p
  | invalidEscape _ p => p
  | invalidNumber _ p => p

/-- Whether a quote stands at a position. -/
def QuoteAt (s : Text) (p : Nat) : Prop := s[p]? = some '"' ∨ s[p]? = some '\''

/-- What an error says of a text in which a token was to begin at `start`. -/
def Describes (s : Text) (start : Nat) : LexError → Prop
  | unexpectedChar c p => p = start ∧ s[p]? = some c
  | unterminatedString p => p = start ∧ QuoteAt s p
  | invalidEscape c p =>
      QuoteAt s start ∧ start + 1 < p ∧ s[p - 1]? = some '\\' ∧ s[p]? = some c
  | invalidNumber literal p =>
      p = start ∧ literal = (s.drop p).takeWhile Char.isDigit ∧
        Int64.maxValue.toInt < Text.toNat literal

end LexError

/-! ## What is left behind a token -/

/-- What is left behind a symbol. -/
lemma suffix_of_symbol? {s rest : Text} {t : Token} (h : symbol? s = some (t, rest)) :
    rest <:+ s := by
  unfold symbol? at h
  split at h <;> cases h <;> simp [List.suffix_cons_iff]

namespace StringBody

variable {quote : Char} {s : Text}

/-- What is left behind a string. -/
lemma suffix_of_read {content rest : Text} (h : read quote s = .closed content rest) :
    rest <:+ s := by
  fun_induction read quote s generalizing content with
  | case1 => cases h
  | case2 s =>
      cases h
      exact List.suffix_cons _ _
  | case3 => cases h
  | case4 e s c _ _ ih =>
      obtain ⟨content', hread⟩ := exists_of_cons_eq h
      exact (ih hread).trans ((List.suffix_cons _ _).trans (List.suffix_cons _ _))
  | case5 => cases h
  | case6 c s _ _ ih =>
      obtain ⟨content', hread⟩ := exists_of_cons_eq h
      exact (ih hread).trans (List.suffix_cons _ _)

/-- Only a bad escape stays one behind a further character. -/
lemma eq_of_cons_eq_badEscape {body : StringBody} {c e : Char} {rest : Text}
    (h : body.cons c = .badEscape e rest) : body = .badEscape e rest := by
  cases body with
  | closed => cases h
  | unterminated => cases h
  | badEscape => exact h

/-- A bad escape is a backslash and the character that is no escape. -/
lemma exists_of_read_eq_badEscape {c : Char} {rest : Text} (h : read quote s = .badEscape c rest) :
    ∃ before, s = before ++ '\\' :: c :: rest := by
  fun_induction read quote s with
  | case1 => cases h
  | case2 => cases h
  | case3 => cases h
  | case4 e s c' _ _ ih =>
      obtain ⟨before, rfl⟩ := ih (eq_of_cons_eq_badEscape h)
      exact ⟨'\\' :: e :: before, rfl⟩
  | case5 e s _ _ =>
      cases h
      exact ⟨[], rfl⟩
  | case6 c' s _ _ ih =>
      obtain ⟨before, rfl⟩ := ih (eq_of_cons_eq_badEscape h)
      exact ⟨c' :: before, rfl⟩

end StringBody

/-- The digits that a number begins with, and what is left behind it. -/
lemma of_numberParts {s whole rest : Text} {fraction : Option Text}
    (h : numberParts s = (whole, fraction, rest)) :
    whole = s.takeWhile Char.isDigit ∧ rest <:+ s := by
  have hdrop : s.dropWhile Char.isDigit <:+ s := List.dropWhile_suffix _
  unfold numberParts at h
  split at h
  · next d behind heq =>
    rw [heq] at hdrop
    split at h
    · cases h
      exact ⟨rfl, (List.dropWhile_suffix _).trans ((List.suffix_cons _ _).trans hdrop)⟩
    · cases h
      exact ⟨rfl, hdrop⟩
  · cases h
    exact ⟨rfl, hdrop⟩

namespace Lexed

variable {s rest behind : Text} {t : Token} {e : LexError} {p start stop : Nat}

/-- What is left behind the token that leads a text. -/
lemma suffix_of_leads (h : Leads s t rest) : rest <:+ s := by
  cases h with
  | symbol h => exact suffix_of_symbol? h
  | string _ h => exact (StringBody.suffix_of_read h).trans (List.suffix_cons _ _)
  | word => exact List.dropWhile_suffix _
  | pointed _ h => exact (of_numberParts h).2
  | whole _ h => exact (of_numberParts h).2

/-- What is left behind the next token. -/
lemma suffix_of_next (h : next p rest = .token t stop behind) : behind <:+ rest :=
  (suffix_of_leads (leads_of_ofStart h)).trans (List.dropWhile_suffix _)

/-- The text ends behind the white space that is left. -/
lemma next_eq_ended_iff :
    next p rest = .ended stop ↔ Text.allBlank rest = true ∧ stop = p + rest.length := by
  constructor
  · intro h
    have hblank := Grammar.lexes_nil_iff.1 (.ended h)
    rw [next_of_all_isBlank hblank] at h
    cases h
    exact ⟨hblank, rfl⟩
  · rintro ⟨hblank, rfl⟩
    exact next_of_all_isBlank hblank p

/-! ## Errors -/

/-- The position of an error lies in what is read, not behind the place where reading stops. -/
lemma position_of_ofStart (h : ofStart start s = .fault e stop) :
    start ≤ e.position ∧ e.position < start + s.length ∧ e.position ≤ stop ∧
      stop ≤ start + s.length := by
  have hfound := found_ofStart start s
  rw [h] at hfound
  cases hfound with
  | unterminated | tooLarge | unexpected =>
      simp only [LexError.position, List.length_cons]
      omega
  | badEscape _ hread hstop =>
      obtain ⟨before, rfl⟩ := StringBody.exists_of_read_eq_badEscape hread
      simp only [LexError.position, List.length_cons, List.length_append] at hstop ⊢
      omega

/-- **An error describes the text** behind the place where reading begins. -/
theorem describes_of_ofStart (hrest : s.drop start = rest)
    (h : ofStart start rest = .fault e stop) : e.Describes s start := by
  have hchar (k : Nat) : s[start + k]? = rest[k]? := by
    rw [← hrest, List.getElem?_drop]
  have hopening {quote : Char} {body : Text} (hquote : quote = '"' ∨ quote = '\'')
      (hbody : rest = quote :: body) : LexError.QuoteAt s start := by
    have hfirst := hchar 0
    rw [hbody] at hfirst
    rcases hquote with rfl | rfl
    · exact .inl hfirst
    · exact .inr hfirst
  have hfound := found_ofStart start rest
  rw [h] at hfound
  cases hfound with
  | unterminated hquote => exact ⟨rfl, hopening hquote rfl⟩
  | badEscape hquote hread hstop =>
      obtain ⟨before, rfl⟩ := StringBody.exists_of_read_eq_badEscape hread
      simp only [List.length_cons, List.length_append] at hstop
      obtain rfl : stop = start + (before.length + 2) := by omega
      have hbackslash := hchar (before.length + 1)
      rw [List.getElem?_cons_succ, List.getElem?_append_right (Nat.le_refl _),
        Nat.sub_self] at hbackslash
      have hescaped := hchar (before.length + 2)
      rw [List.getElem?_cons_succ, List.getElem?_append_right (Nat.le_add_right _ 1),
        Nat.add_sub_cancel_left] at hescaped
      exact ⟨hopening hquote rfl, by omega, hbackslash, hescaped⟩
  | tooLarge _ hparts hlarge =>
      have hmax : Int64.maxValue.toInt < (Nat.pow 2 63 : Nat) := by decide
      refine ⟨rfl, ?_, by omega⟩
      rw [hrest]
      exact (of_numberParts hparts).1
  | unexpected => exact ⟨rfl, hchar 0⟩

/-- An error describes the text behind the white space that comes first. -/
lemma describes_of_next (hrest : s.drop p = rest) (h : next p rest = .fault e stop) :
    e.Describes s (p + (rest.takeWhile Text.isBlank).length) ∧ p ≤ e.position ∧
      e.position < p + rest.length ∧ e.position ≤ stop ∧ stop ≤ p + rest.length := by
  have hdivide := List.takeWhile_append_dropWhile (p := Text.isBlank) (l := rest)
  have hlength := congrArg List.length hdivide
  rw [List.length_append, ← Text.trimStart] at hlength
  have hdrop : s.drop (p + (rest.takeWhile Text.isBlank).length) = Text.trimStart rest := by
    rw [← List.drop_drop, hrest]
    nth_rewrite 2 [← hdivide]
    exact List.drop_left
  rw [next, ← Nat.eq_sub_of_add_eq hlength] at h
  have hposition := position_of_ofStart h
  refine ⟨describes_of_ofStart hdrop h, ?_⟩
  omega

/-! ## All positions -/

/-- Whether reading a text from its start, token by token, comes to a position, with `rest` left. -/
inductive Reached (s : Text) : Nat → Text → Prop
  /-- Reading begins with the text. -/
  | start : Reached s 0 s
  /-- It goes on behind a token. -/
  | token {p stop : Nat} {rest behind : Text} {t : Token} :
      Reached s p rest → next p rest = .token t stop behind → Reached s stop behind

/-- **What is left to be read** is the text behind the position. -/
theorem Reached.rest_eq (h : Reached s p rest) : p ≤ s.length ∧ rest = s.drop p := by
  have hinv : p + rest.length = s.length ∧ rest <:+ s := by
    induction h with
    | start => exact ⟨Nat.zero_add _, List.suffix_rfl⟩
    | token _ hnext ih =>
        exact ⟨(stop_of_next hnext).trans ih.1, (suffix_of_next hnext).trans ih.2⟩
  refine ⟨by omega, ?_⟩
  rw [List.suffix_iff_eq_drop.1 hinv.2]
  congr 1
  omega

end Lexed

namespace TokenStream

/-- The tokens of a text are read wherever reading comes to. -/
lemma exists_reached_of_reads {s rest : Text} {p : Nat} {ts : List Token} {after : TokenStream}
    (hreached : Lexed.Reached s p rest) (h : (ofText p rest).Reads ts after) :
    ∃ p' rest', Lexed.Reached s p' rest' ∧ after = ofText p' rest' := by
  induction ts generalizing p rest with
  | nil => exact ⟨p, rest, hreached, (reads_nil.1 h).symm⟩
  | cons t ts ih =>
      obtain ⟨_, _, hstream, h⟩ := reads_cons.1 h
      obtain ⟨behind, hnext, rfl⟩ := next_of_ofText hstream
      exact ih (hreached.token hnext) h

end TokenStream

namespace Lexed

/-- **Positions are sound.** All tokens of a text are read at positions that reading it comes to. No
such position lies behind the end of the text, and a token that is read there ends at a greater one
that does not either. The end is found exactly if only white space is left, with the length of the
text as its position. An error has its position in the text and is as it says: a character that no
token begins with stands there; or the quote that opens a string; or what follows a backslash in a
string; or the first of all the digits of a number, which is greater than any of 64 bits. -/
theorem positions_sound (s : Text) :
    (∀ ts after, (TokenStream.ofText 0 s).Reads ts after →
      ∃ p rest, Reached s p rest ∧ after = TokenStream.ofText p rest) ∧
    ∀ p rest, Reached s p rest →
      (p ≤ s.length ∧ rest = s.drop p) ∧
      (∀ t stop behind, next p rest = .token t stop behind → p < stop ∧ stop ≤ s.length) ∧
      (∀ stop, next p rest = .ended stop ↔ Text.allBlank rest = true ∧ stop = s.length) ∧
      ∀ e stop, next p rest = .fault e stop →
        e.Describes s (p + (rest.takeWhile Text.isBlank).length) ∧ p ≤ e.position ∧
          e.position < s.length ∧ e.position ≤ stop ∧ stop ≤ s.length := by
  refine ⟨fun ts after => TokenStream.exists_reached_of_reads .start, fun p rest hreached => ?_⟩
  obtain ⟨hp, hrest⟩ := hreached.rest_eq
  have hlength : p + rest.length = s.length := by
    rw [hrest, List.length_drop]
    omega
  refine ⟨⟨hp, hrest⟩, ?token, ?ended, ?fault⟩
  case token =>
    intro t stop behind hnext
    have hstop := stop_of_next hnext
    have hshorter := length_of_next hnext
    omega
  case ended =>
    intro stop
    rw [next_eq_ended_iff, hlength]
  case fault =>
    intro e stop hnext
    rw [← hlength]
    exact describes_of_next hrest.symm hnext

/-- Behind a name, a string has a backslash before a letter that is no escape. -/
theorem positions_sound_escape :
    let s : Text := "a 'x\\q'".toList
    let rest : Text := " 'x\\q'".toList
    Reached s 1 rest ∧ next 1 rest = .fault (.invalidEscape 'q' 5) 5 ∧
      (LexError.invalidEscape 'q' 5).Describes s 2 ∧ 5 < s.length := by
  intro s rest
  have hname : next 0 s = .token (.name "a".toList) 1 rest := rfl
  have hreached : Reached s 1 rest := .token .start hname
  have hnext : next 1 rest = .fault (.invalidEscape 'q' 5) 5 := by
    calc next 1 rest = ofStart 2 "'x\\q'".toList := rfl
      _ = ofString 2 '\'' "x\\q'".toList := rfl
      _ = .fault (.invalidEscape 'q' 5) 5 := rfl
  obtain ⟨-, -, -, hfault⟩ := (positions_sound s).2 1 rest hreached
  obtain ⟨hdescribes, -, hposition, -⟩ := hfault _ _ hnext
  exact ⟨hreached, hnext, hdescribes, hposition⟩

end Lexed

end DynamicSql
