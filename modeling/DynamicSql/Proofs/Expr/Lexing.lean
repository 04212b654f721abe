import DynamicSql.Expr.Lexer
import DynamicSql.Proofs.Text.Span

/-!
# Reading single tokens

All that can be found at the start of a text is listed once (`Found`, `found_ofStart`): the tokens
(`Leads`), the end, and the faults. What leads a text is read at every position
(`exists_of_leads`), and the position behind it is told by what is left (`stop_of_next`).

So symbols, words, strings and whole numbers are read in front of everything that does not go on
with them.
-/

namespace DynamicSql

/-- What is found under a name is an entry of that name. -/
lemma Table.mem_of_lookup {α : Type} {name : Text} {x : α} {l : List (Text × α)}
    (h : Table.lookup name l = some x) : (name, x) ∈ l := by
  induction l with
  | nil => cases h
  | cons e rest ih =>
      obtain ⟨other, y⟩ := e
      rw [Table.lookup] at h
      split at h
      · next heq =>
        obtain rfl := Option.some.inj h
        rw [heq]
        exact List.mem_cons_self
      · exact List.mem_cons_of_mem _ (ih h)

/-- Nothing is found under a name that no entry has. -/
lemma Table.lookup_eq_none {α : Type} {name : Text} {l : List (Text × α)}
    (h : name ∉ l.map Prod.fst) : Table.lookup name l = none := by
  rcases hlookup : Table.lookup name l with _ | x
  · rfl
  · exact absurd (List.mem_map_of_mem (Table.mem_of_lookup hlookup)) h

namespace Lexed

/-! ## What a text begins with -/

/-- What a text begins with, wherever it stands: a token with `rest` behind it. -/
inductive Leads : Text → Token → Text → Prop
  /-- A symbol. -/
  | symbol {s rest : Text} {t : Token} (h : symbol? s = some (t, rest)) : Leads s t rest
  /-- A string, up to the quote that closes it. -/
  | string {quote : Char} {s content rest : Text} (hquote : quote = '"' ∨ quote = '\'')
      (h : StringBody.read quote s = .closed content rest) :
      Leads (quote :: s) (.string content) rest
  /-- A word. -/
  | word {c : Char} {s : Text} (hc : Text.startsName c = true) :
      Leads (c :: s) (wordToken ((c :: s).takeWhile Text.continuesName))
        ((c :: s).dropWhile Text.continuesName)
  /-- A number with a point. -/
  | pointed {c : Char} {s whole fraction rest : Text} (hc : c.isDigit = true)
      (h : numberParts (c :: s) = (whole, some fraction, rest)) :
      Leads (c :: s) (.float (pointedNumber whole fraction)) rest
  /-- A whole number that fits 64 bits. -/
  | whole {c : Char} {s whole rest : Text} (hc : c.isDigit = true)
      (h : numberParts (c :: s) = (whole, none, rest)) (hfits : Text.toNat whole < Nat.pow 2 63) :
      Leads (c :: s) (.integer (Int64.ofNat (Text.toNat whole))) rest

/-- What may be found at the start of a text that begins at a position. -/
inductive Found (start : Nat) : Text → Lexed → Prop
  /-- A token, which ends where the rest begins. -/
  | token {s rest : Text} {t : Token} (h : Leads s t rest) :
      Found start s (.token t (start + (s.length - rest.length)) rest)
  /-- Nothing. -/
  | ended : Found start [] (.ended start)
  /-- A string that does not end. -/
  | unterminated {quote : Char} {s : Text} (hquote : quote = '"' ∨ quote = '\'')
      (h : StringBody.read quote s = .unterminated) :
      Found start (quote :: s) (.fault (.unterminatedString start) (start + 1 + s.length))
  /-- A string with a backslash before a character that is no escape. -/
  | badEscape {quote c : Char} {s rest : Text} {stop : Nat} (hquote : quote = '"' ∨ quote = '\'')
      (h : StringBody.read quote s = .badEscape c rest)
      (hstop : stop = start + 1 + (s.length - (c :: rest).length)) :
      Found start (quote :: s) (.fault (.invalidEscape c stop) stop)
  /-- A whole number that does not fit. -/
  | tooLarge {c : Char} {s whole rest : Text} (hc : c.isDigit = true)
      (h : numberParts (c :: s) = (whole, none, rest)) (hlarge : Nat.pow 2 63 ≤ Text.toNat whole) :
      Found start (c :: s)
        (.fault (.invalidNumber whole start) (start + ((c :: s).length - rest.length)))
  /-- A character that no token begins with. -/
  | unexpected {c : Char} {s : Text} :
      Found start (c :: s) (.fault (.unexpectedChar c start) start)

/-- What is found at a quote. -/
lemma found_ofString {quote : Char} (hquote : quote = '"' ∨ quote = '\'') (start : Nat) (s : Text) :
    Found start (quote :: s) (ofString start quote s) := by
  rw [ofString]
  split
  · next content rest h =>
    have hlength := StringBody.length_of_read h
    have hstop : start + 1 + (s.length - rest.length) =
        start + ((quote :: s).length - rest.length) := by
      simp only [List.length_cons]
      omega
    simp only [hstop]
    exact .token (.string hquote h)
  · next h => exact .unterminated hquote h
  · next h => exact .badEscape hquote h rfl

/-- What is found at a digit. -/
lemma found_ofNumber {c : Char} (hc : c.isDigit = true) (start : Nat) (s : Text) :
    Found start (c :: s) (ofNumber start (c :: s)) := by
  rcases h : numberParts (c :: s) with ⟨whole, fraction | fraction, rest⟩
  all_goals simp only [ofNumber, h]
  · split
    · next hfits => exact .token (.whole hc h hfits)
    · next hlarge => exact .tooLarge hc h (Nat.le_of_not_lt hlarge)
  · exact .token (.pointed hc h)

/-- **What is read at the start of a text** is found there. -/
theorem found_ofStart (start : Nat) (s : Text) : Found start s (ofStart start s) := by
  rw [ofStart.eq_def]
  split
  · next h => exact .token (.symbol h)
  · cases s with
    | nil => exact .ended
    | cons c s =>
        simp only
        split
        · next hquote => exact found_ofString hquote start s
        · split
          · next hc =>
            have hlength := congrArg List.length
              (List.takeWhile_append_dropWhile (p := Text.continuesName) (l := c :: s))
            rw [List.length_append] at hlength
            rw [Nat.eq_sub_of_add_eq hlength]
            exact .token (.word hc)
          · split
            · next hc => exact found_ofNumber hc start s
            · exact .unexpected

section token

variable {start stop : Nat} {s rest : Text} {t : Token}

/-- A token that is read leads the text. -/
lemma leads_of_ofStart (h : ofStart start s = .token t stop rest) : Leads s t rest := by
  have hfound := found_ofStart start s
  rw [h] at hfound
  cases hfound
  assumption

/-- The token at the start of a text ends where the rest begins. -/
lemma stop_of_ofStart (h : ofStart start s = .token t stop rest) :
    stop + rest.length = start + s.length := by
  have hlength := length_of_ofStart h
  have hfound := found_ofStart start s
  rw [h] at hfound
  cases hfound
  omega

/-- **A token ends where the rest begins.** -/
lemma stop_of_next (h : next start s = .token t stop rest) :
    stop + rest.length = start + s.length := by
  have hstop := stop_of_ofStart h
  have hle := length_dropWhile_le Text.isBlank s
  simp only [Text.trimStart] at hstop
  omega

end token

/-! ## What is read at every position -/

/-- Whether a text begins with a token, with `rest` behind it, at every position. -/
def Begins (s : Text) (t : Token) (rest : Text) : Prop :=
  ∀ start, ∃ stop, next start s = .token t stop rest

/-- A character that is not white space begins a token. -/
lemma next_cons {c : Char} (h : Text.isBlank c = false) (start : Nat) (s : Text) :
    next start (c :: s) = ofStart start (c :: s) := by
  rw [next, Text.trimStart_cons h, Nat.sub_self, Nat.add_zero]

/-- No symbol begins with a character of a name. -/
lemma symbol?_of_continuesName {c : Char} (h : Text.continuesName c = true) (s : Text) :
    symbol? (c :: s) = none := by
  rcases hsymbol : symbol? (c :: s) with _ | ⟨t, rest⟩
  · rfl
  · unfold symbol? at hsymbol
    split at hsymbol
    case h_21 => cases hsymbol
    all_goals
      next heq =>
      obtain ⟨rfl, -⟩ := List.cons.inj heq
      exact absurd h (by decide)

/-- Characters of a name are no quotes. -/
lemma not_quote_of_continuesName {c : Char} (h : Text.continuesName c = true) :
    ¬(c = '"' ∨ c = '\'') := by
  rintro (rfl | rfl) <;> exact absurd h (by decide)

/-- At a digit, a number is read. -/
lemma ofStart_of_isDigit {c : Char} (hc : c.isDigit = true) (start : Nat) (s : Text) :
    ofStart start (c :: s) = ofNumber start (c :: s) := by
  have hc' := Text.continuesName_of_isDigit hc
  rw [ofStart, symbol?_of_continuesName hc']
  simp only [if_neg (not_quote_of_continuesName hc'), Text.startsName_of_isDigit hc, hc, if_true,
    Bool.false_eq_true, if_false]

/-- **What leads a text is read** at every position. -/
theorem exists_of_leads {s rest : Text} {t : Token} (h : Leads s t rest) (start : Nat) :
    ∃ stop, ofStart start s = .token t stop rest := by
  cases h with
  | symbol h =>
      rw [ofStart.eq_def, h]
      exact ⟨_, rfl⟩
  | @string quote s _ _ hquote h =>
      have hsymbol : symbol? (quote :: s) = none := by rcases hquote with rfl | rfl <;> rfl
      rw [ofStart, hsymbol]
      simp only [if_pos hquote, ofString, h]
      exact ⟨_, rfl⟩
  | word hc =>
      have hc' := Text.continuesName_of_startsName hc
      rw [ofStart, symbol?_of_continuesName hc']
      simp only [if_neg (not_quote_of_continuesName hc'), hc, if_true]
      exact ⟨_, rfl⟩
  | pointed hc h =>
      simp only [ofStart_of_isDigit hc, ofNumber, h]
      exact ⟨_, rfl⟩
  | whole hc h hfits =>
      simp only [ofStart_of_isDigit hc, ofNumber, h, hfits, if_true]
      exact ⟨_, rfl⟩

/-- What leads a text that does not begin with white space. -/
lemma begins_of_leads {c : Char} {s rest : Text} {t : Token} (hc : Text.isBlank c = false)
    (h : Leads (c :: s) t rest) : Begins (c :: s) t rest := by
  intro start
  rw [next_cons hc]
  exact exists_of_leads h start

/-- A symbol is a token. -/
lemma begins_of_symbol? {c : Char} {s rest : Text} {t : Token} (hc : Text.isBlank c = false)
    (h : symbol? (c :: s) = some (t, rest)) : Begins (c :: s) t rest :=
  begins_of_leads hc (.symbol h)

/-- A name in front of something that no name goes on with is one word. -/
theorem begins_word {s rest : Text} (hs : Text.isName s = true)
    (hrest : ∀ c ∈ rest.head?, Text.continuesName c = false) :
    Begins (s ++ rest) (wordToken s) rest := by
  obtain ⟨c, s', rfl, hc, hall⟩ := Text.exists_of_isName hs
  have hleads : Leads (c :: (s' ++ rest)) _ _ := .word hc
  rw [← List.cons_append, Text.takeWhile_span hall hrest, Text.dropWhile_span hall hrest] at hleads
  exact begins_of_leads (Text.isBlank_of_startsName hc) hleads

/-- Digits in front of something that no number goes on with are a whole number. -/
lemma numberParts_append {digits rest : Text} (hdigits : digits.all Char.isDigit = true)
    (hrest : ∀ c ∈ rest.head?, c.isDigit = false ∧ c ≠ '.') :
    numberParts (digits ++ rest) = (digits, none, rest) := by
  have hstop : ∀ c ∈ rest.head?, c.isDigit = false := fun c hc => (hrest c hc).1
  simp only [numberParts, Text.takeWhile_span hdigits hstop, Text.dropWhile_span hdigits hstop]
  split
  · exact absurd rfl (hrest '.' rfl).2
  · rfl

/-- Digits are a whole number if it fits 64 bits. -/
theorem begins_integer {digits rest : Text} (hne : digits ≠ [])
    (hdigits : digits.all Char.isDigit = true) (hfits : Text.toNat digits < Nat.pow 2 63)
    (hrest : ∀ c ∈ rest.head?, c.isDigit = false ∧ c ≠ '.') :
    Begins (digits ++ rest) (.integer (Int64.ofNat (Text.toNat digits))) rest := by
  obtain ⟨c, digits, rfl⟩ := List.exists_cons_of_ne_nil hne
  have hc : c.isDigit = true := List.all_eq_true.1 hdigits c List.mem_cons_self
  have hblank := Text.isBlank_of_continuesName (Text.continuesName_of_isDigit hc)
  exact begins_of_leads hblank (.whole hc (numberParts_append hdigits hrest) hfits)

/-- A quote begins a string, up to the quote that closes it. -/
theorem begins_string {quote : Char} (hquote : quote = '"' ∨ quote = '\'') {s content rest : Text}
    (h : StringBody.read quote s = .closed content rest) :
    Begins (quote :: s) (.string content) rest := by
  have hblank : Text.isBlank quote = false := by rcases hquote with rfl | rfl <;> rfl
  exact begins_of_leads hblank (.string hquote h)

/-! ## White space -/

/-- White space before a token only moves it. -/
lemma next_append {blanks : Text} (hblanks : blanks.all Text.isBlank = true) (start : Nat)
    (s : Text) : next start (blanks ++ s) = next (start + blanks.length) s := by
  have htrim : Text.trimStart (blanks ++ s) = Text.trimStart s :=
    List.dropWhile_append_of_pos (List.all_eq_true.1 hblanks)
  have hle := length_dropWhile_le Text.isBlank s
  rw [next, next, htrim, List.length_append]
  congr 1
  simp only [Text.trimStart]
  omega

/-- There is no token in white space. -/
lemma next_of_all_isBlank {blanks : Text} (h : blanks.all Text.isBlank = true) (start : Nat) :
    next start blanks = .ended (start + blanks.length) := by
  have hnext := next_append h start []
  rwa [List.append_nil] at hnext

end Lexed

end DynamicSql
