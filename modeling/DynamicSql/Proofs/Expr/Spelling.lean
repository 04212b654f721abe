import DynamicSql.Proofs.Expr.Grammar

/-!
# Spelling tokens

A token can be spelled in several ways: an operator in symbols or in letters, a number with zeros
before it, a string in either quotes, with escapes. `Token.Spells` lists the spellings, without a
word on how they are read. Any spellings of any tokens, with white space between them, are read as
these tokens, and when there are no more, the reader says so however often it is asked
(`answer_spelled`).

Numbers with a point are left out. Without white space, spellings could run into each other.
-/

namespace DynamicSql

/-! ## Spellings -/

namespace Token

/-- The spelling in symbols. -/
def inSymbols? : Token → Option Text
  | equal => some "==".toList
  | notEqual => some "!=".toList
  | less => some "<".toList
  | greater => some ">".toList
  | lessEqual => some "<=".toList
  | greaterEqual => some ">=".toList
  | plus => some "+".toList
  | minus => some "-".toList
  | star => some "*".toList
  | slash => some "/".toList
  | percent => some "%".toList
  | and => some "&&".toList
  | or => some "||".toList
  | not => some "!".toList
  | leftBracket => some "[".toList
  | rightBracket => some "]".toList
  | leftParen => some "(".toList
  | rightParen => some ")".toList
  | dot => some ".".toList
  | comma => some ",".toList
  | float _ | integer _ | string _ | boolean _ | null | name _ => none

/-- The spelling in letters, other than that of a name. -/
def inLetters? : Token → Option Text
  | equal => some "eq".toList
  | notEqual => some "neq".toList
  | less => some "lt".toList
  | greater => some "gt".toList
  | lessEqual => some "lte".toList
  | greaterEqual => some "gte".toList
  | and => some "and".toList
  | or => some "or".toList
  | not => some "not".toList
  | boolean true => some "true".toList
  | boolean false => some "false".toList
  | null => some "null".toList
  | _ => none

/-- The letters behind a backslash, and the characters they stand for. -/
def escapes : List (Char × Char) :=
  [('n', '\n'), ('t', '\t'), ('r', '\r'), ('"', '"'), ('\'', '\''), ('\\', '\\')]

/-- What may stand between two quotes for a string. -/
inductive Quotes (quote : Char) : Text → Text → Prop
  /-- Nothing, for the empty string. -/
  | nil : Quotes quote [] []
  /-- A character that is written as it is. -/
  | raw {c : Char} {body s : Text} (hquote : c ≠ quote) (hescape : c ≠ '\\') :
      Quotes quote body s → Quotes quote (c :: body) (c :: s)
  /-- A character that is written behind a backslash. -/
  | escaped {e c : Char} {body s : Text} (h : (e, c) ∈ escapes) :
      Quotes quote body s → Quotes quote ('\\' :: e :: body) (c :: s)

/-- The texts that spell a token. -/
inductive Spells : Text → Token → Prop
  /-- Symbols. -/
  | symbols {word : Text} {t : Token} (h : t.inSymbols? = some word) : Spells word t
  /-- A word of the language. -/
  | letters {word : Text} {t : Token} (h : t.inLetters? = some word) : Spells word t
  /-- A name that is no word of the language. -/
  | name {s : Text} (h : Text.isName s = true) (hfree : ∀ t : Token, t.inLetters? ≠ some s) :
      Spells s (.name s)
  /-- Digits, perhaps after zeros. -/
  | integer (zeros : Nat) {n : Nat} (h : n < Nat.pow 2 63) :
      Spells (List.replicate zeros '0' ++ Text.ofNat n) (.integer (Int64.ofNat n))
  /-- A string between quotes. -/
  | string {quote : Char} {body s : Text} (hquote : quote = '"' ∨ quote = '\'')
      (h : Quotes quote body s) : Spells (quote :: body ++ [quote]) (.string s)

/-- Whether a token has a spelling: numbers have neither a point nor a sign, and names are no words
of the language. -/
def Spellable : Token → Prop
  | float _ => False
  | integer n => 0 ≤ n.toInt
  | name s => Text.isName s = true ∧ ∀ t : Token, t.inLetters? ≠ some s
  | _ => True

end Token

/-! ## Which tokens are spelled -/

namespace Token

/-- Every string can be written between double quotes. -/
lemma exists_quotes (s : Text) : ∃ body, Quotes '"' body s := by
  induction s with
  | nil => exact ⟨[], .nil⟩
  | cons c s ih =>
      obtain ⟨body, hbody⟩ := ih
      by_cases hquote : c = '"'
      · subst hquote
        exact ⟨'\\' :: '"' :: body, .escaped (by decide) hbody⟩
      · by_cases hescape : c = '\\'
        · subst hescape
          exact ⟨'\\' :: '\\' :: body, .escaped (by decide) hbody⟩
        · exact ⟨c :: body, .raw hquote hescape hbody⟩

/-- The tokens that have a spelling. -/
lemma exists_spells_iff {t : Token} : (∃ word, Spells word t) ↔ t.Spellable := by
  constructor
  · rintro ⟨word, h⟩
    cases h with
    | symbols h => cases t <;> trivial
    | letters h => cases t <;> trivial
    | name h hfree => exact ⟨h, hfree⟩
    | integer zeros h =>
        rw [Spellable, Int64.toInt_ofNat_of_lt h]
        exact Int.natCast_nonneg _
    | string hquote h => trivial
  · intro h
    cases t with
    | float => cases h
    | integer n =>
        obtain ⟨k, hk⟩ := Int.eq_ofNat_of_zero_le h
        have hn : Int64.ofNat k = n := by
          rw [← Int64.ofInt_eq_ofNat, ← hk, Int64.ofInt_toInt]
        have hfits : k < Nat.pow 2 63 := by
          have hlt := n.toInt_lt
          have hpow : Nat.pow 2 63 = 9223372036854775808 := rfl
          omega
        rw [← hn]
        exact ⟨_, .integer 0 hfits⟩
    | string s =>
        obtain ⟨body, hbody⟩ := exists_quotes s
        exact ⟨_, .string (.inl rfl) hbody⟩
    | boolean b => cases b <;> exact ⟨_, .letters rfl⟩
    | null => exact ⟨_, .letters rfl⟩
    | name s => exact ⟨s, .name h.1 h.2⟩
    | _ => exact ⟨_, .symbols rfl⟩

end Token

/-! ## Reading a spelling -/

namespace Lexed

open Token

/-- The quote that began a string closes it. -/
lemma read_quote (quote : Char) (rest : Text) :
    StringBody.read quote (quote :: rest) = .closed [] rest := by
  cases rest <;> rw [StringBody.read, if_pos rfl]

/-- Other characters stand for themselves. -/
lemma read_raw {quote c : Char} (hquote : c ≠ quote) (hescape : c ≠ '\\') (rest : Text) :
    StringBody.read quote (c :: rest) = (StringBody.read quote rest).cons c := by
  cases rest <;> simp only [StringBody.read, if_neg hquote, if_neg hescape]

/-- What is read between quotes is the string that is written there. -/
lemma read_of_quotes {quote : Char} (hquote : quote = '"' ∨ quote = '\'') {body s : Text}
    (h : Quotes quote body s) (rest : Text) :
    StringBody.read quote (body ++ quote :: rest) = .closed s rest := by
  induction h with
  | nil => exact read_quote quote rest
  | raw hne hescape _ ih =>
      rw [List.cons_append, read_raw hne hescape, ih]
      rfl
  | @escaped e c _ _ h _ ih =>
      have hslash : '\\' ≠ quote := by rcases hquote with rfl | rfl <;> decide
      have hescapes : ∀ p ∈ escapes, StringBody.escape? p.1 = some p.2 := by decide
      rw [List.cons_append, List.cons_append, StringBody.read, if_neg hslash, if_pos rfl]
      simp only [hescapes _ h, ih]
      rfl

/-- No symbol begins with white space. -/
lemma exists_of_inSymbols? {t : Token} {word : Text} (h : t.inSymbols? = some word) :
    ∃ c rest, word = c :: rest ∧ Text.isBlank c = false := by
  cases t <;> cases h <;> exact ⟨_, _, rfl, rfl⟩

/-- White space goes on with no symbol. -/
lemma symbol?_of_inSymbols? {t : Token} {word rest : Text} (h : t.inSymbols? = some word)
    (hrest : ∀ c ∈ rest.head?, Text.isBlank c = true) :
    symbol? (word ++ rest) = some (t, rest) := by
  cases rest with
  | nil => cases t <;> cases h <;> rfl
  | cons c rest =>
      have hc : c ≠ '=' := by
        rintro rfl
        exact absurd (hrest '=' rfl) (by decide)
      cases t <;> cases h <;> simp [symbol?, hc]

/-- The words of the language are its keywords. -/
lemma wordToken_of_inLetters? {t : Token} {word : Text} (h : t.inLetters? = some word) :
    Text.isName word = true ∧ wordToken word = t := by
  cases t with
  | boolean b => cases b <;> cases h <;> exact ⟨by decide, rfl⟩
  | _ => cases h <;> exact ⟨by decide, rfl⟩

/-- A name that is no word of the language is no keyword. -/
lemma wordToken_of_free {s : Text} (hfree : ∀ t : Token, t.inLetters? ≠ some s) :
    wordToken s = .name s := by
  have hkeywords : ∀ e ∈ keywords, e.2.inLetters? = some e.1 := by decide
  rcases hlookup : Table.lookup s keywords with _ | t
  · rw [wordToken, hlookup]
    rfl
  · exact absurd (hkeywords _ (Table.mem_of_lookup hlookup)) (hfree t)

/-- Zeros before a number do not change it. -/
lemma toNat_zeros_append (zeros n : Nat) :
    Text.toNat (List.replicate zeros '0' ++ Text.ofNat n) = n := by
  have hzeros : Nat.ofDigitChars 10 (List.replicate zeros '0') 0 = 0 := by
    induction zeros with
    | zero => rfl
    | succ zeros ih =>
        rw [List.replicate_succ, Nat.ofDigitChars_cons]
        exact ih
  rw [Text.toNat, Nat.ofDigitChars_append, hzeros]
  exact Text.toNat_ofNat n

/-- **A spelling is read as its token** in front of white space, and at the end. -/
theorem begins_of_spells {t : Token} {word rest : Text} (h : Spells word t)
    (hrest : ∀ c ∈ rest.head?, Text.isBlank c = true) : Begins (word ++ rest) t rest := by
  -- white space is part of no name and of no number
  have hname : ∀ c ∈ rest.head?, Text.continuesName c = false := by
    intro c hc
    rw [← Bool.not_eq_true]
    intro hname
    have hblank := hrest c hc
    rw [Text.isBlank_of_continuesName hname] at hblank
    cases hblank
  have hnumber : ∀ c ∈ rest.head?, c.isDigit = false ∧ c ≠ '.' := by
    intro c hc
    refine ⟨?_, ?_⟩
    · rw [← Bool.not_eq_true]
      intro hdigit
      have hletter := hname c hc
      rw [Text.continuesName_of_isDigit hdigit] at hletter
      cases hletter
    · rintro rfl
      exact absurd (hrest '.' hc) (by decide)
  cases h with
  | symbols h =>
      obtain ⟨c, word, rfl, hc⟩ := exists_of_inSymbols? h
      exact begins_of_symbol? hc (symbol?_of_inSymbols? h hrest)
  | letters h =>
      obtain ⟨hword, htoken⟩ := wordToken_of_inLetters? h
      rw [← htoken]
      exact begins_word hword hname
  | name h hfree =>
      have hbegins := begins_word h hname
      rwa [wordToken_of_free hfree] at hbegins
  | @integer zeros n h =>
      have hdigits : (List.replicate zeros '0' ++ Text.ofNat n).all Char.isDigit = true := by
        rw [List.all_append, List.all_replicate, Bool.and_eq_true]
        exact ⟨by simp, List.all_eq_true.2 fun c hc => Text.isDigit_of_mem_ofNat hc⟩
      have hne : List.replicate zeros '0' ++ Text.ofNat n ≠ [] :=
        List.append_ne_nil_of_right_ne_nil _ Nat.toDigits_ne_nil
      have hvalue := toNat_zeros_append zeros n
      have hbegins := begins_integer hne hdigits (by rw [hvalue]; exact h) hnumber
      rwa [hvalue] at hbegins
  | string hquote h =>
      rw [List.append_assoc, List.cons_append]
      exact begins_string hquote (read_of_quotes hquote h rest)

end Lexed

/-! ## Asking for one token after the other -/

namespace Lexed

/-- What a reader that stands at a position of a text answers when it is asked for a token, and
where it stands then: the token, nothing at the end of the text, or why there is none. -/
def ask (s : Text) (position : Nat) : Except LexError (Option Token) × Nat :=
  match next position (s.drop position) with
  | .token t stop _ => (.ok (some t), stop)
  | .ended stop => (.ok none, stop)
  | .fault e stop => (.error e, stop)

/-- What a reader that stands at a position answers when it has been asked `n` times before. -/
def answer (s : Text) (position : Nat) : Nat → Except LexError (Option Token)
  | 0 => (ask s position).1
  | n + 1 => answer s (ask s position).2 n

/-- What is read before a position does not matter. -/
lemma ask_append (read s : Text) :
    ask (read ++ s) read.length =
      match next read.length s with
      | .token t stop _ => (.ok (some t), stop)
      | .ended stop => (.ok none, stop)
      | .fault e stop => (.error e, stop) := by
  rw [ask, List.drop_left]

/-- At the end of a text there is nothing, however often one asks. -/
lemma answer_of_all_isBlank {blanks : Text} (h : blanks.all Text.isBlank = true) (read : Text)
    (n : Nat) : answer (read ++ blanks) read.length n = .ok none := by
  induction n generalizing read blanks with
  | zero => rw [answer, ask_append, next_of_all_isBlank h]
  | succ n ih =>
      have hagain := @ih [] rfl (read ++ blanks)
      rw [List.append_nil, List.length_append] at hagain
      rwa [answer, ask_append, next_of_all_isBlank h]

end Lexed

/-! ## Texts that spell tokens -/

/-- A token in a text: how it is spelled, and the white space behind it. -/
structure Spelling where
  /-- The token. -/
  token : Token
  /-- How it is spelled. -/
  word : Text
  /-- The white space behind it. -/
  behind : Text
  /-- It is spelled so. -/
  spells : token.Spells word
  /-- What is behind it is white space. -/
  blank : behind.all Text.isBlank = true

namespace Spelling

/-- The text of a token and what is behind it. -/
def text (x : Spelling) : Text := x.word ++ x.behind

/-- Whether there is white space between tokens that stand side by side. -/
def Apart (spellings : List Spelling) : Prop := ∀ x ∈ spellings.dropLast, x.behind ≠ []

variable {x : Spelling} {rest : List Spelling}

/-- The tokens behind the first are apart from each other. -/
lemma Apart.tail (h : Apart (x :: rest)) : Apart rest := by
  cases rest with
  | nil => nofun
  | cons y rest => exact fun z hz => h z (List.mem_cons_of_mem x hz)

/-- What follows a word begins with white space, if there is anything. -/
lemma Apart.isBlank_behind (h : Apart (x :: rest)) :
    ∀ c ∈ (x.behind ++ rest.flatMap text).head?, Text.isBlank c = true := by
  intro c hc
  have hblank := List.all_eq_true.1 x.blank
  cases hbehind : x.behind with
  | cons d behind =>
      rw [hbehind] at hc hblank
      obtain rfl : d = c := Option.some.inj hc
      exact hblank d List.mem_cons_self
  | nil =>
      cases rest with
      | nil =>
          rw [hbehind] at hc
          cases hc
      | cons y rest => exact absurd hbehind (h x List.mem_cons_self)

/-- **The first of several spellings** is the next token, and the white space behind it is left. -/
lemma Apart.next_flatMap (h : Apart (x :: rest)) {lead : Text}
    (hlead : lead.all Text.isBlank = true) (start : Nat) :
    Lexed.next start (lead ++ (x :: rest).flatMap text) =
      .token x.token (start + lead.length + x.word.length) (x.behind ++ rest.flatMap text) := by
  have hword : (x :: rest).flatMap text = x.word ++ (x.behind ++ rest.flatMap text) := by
    rw [List.flatMap_cons, text, List.append_assoc]
  obtain ⟨stop, hnext⟩ := Lexed.begins_of_spells x.spells h.isBlank_behind (start + lead.length)
  have hstop := Lexed.stop_of_next hnext
  simp only [List.length_append] at hstop
  obtain rfl : stop = start + lead.length + x.word.length := by omega
  rw [Lexed.next_append hlead, hword, hnext]

/-- The tokens of a text that spells them. -/
lemma Apart.lexes_flatMap {spellings : List Spelling} (h : Apart spellings) {lead : Text}
    (hlead : lead.all Text.isBlank = true) (start : Nat) :
    Grammar.Lexes start (lead ++ spellings.flatMap text) (spellings.map (·.token)) := by
  induction spellings generalizing lead start with
  | nil =>
      rw [List.flatMap_nil, List.append_nil]
      exact .ended (Lexed.next_of_all_isBlank hlead start)
  | cons x rest ih => exact .token (h.next_flatMap hlead start) (ih h.tail x.blank _)

/-- The answers of a reader that stands before a text that spells tokens. -/
lemma Apart.answer_flatMap {spellings : List Spelling} (h : Apart spellings) {lead : Text}
    (hlead : lead.all Text.isBlank = true) (read : Text) (n : Nat) :
    Lexed.answer (read ++ (lead ++ spellings.flatMap text)) read.length n =
      .ok (spellings.map (·.token))[n]? := by
  induction spellings generalizing lead read n with
  | nil =>
      rw [List.flatMap_nil, List.append_nil]
      exact Lexed.answer_of_all_isBlank hlead read n
  | cons x rest ih =>
      have hask : Lexed.ask (read ++ (lead ++ (x :: rest).flatMap text)) read.length =
          (.ok (some x.token), read.length + lead.length + x.word.length) := by
        rw [Lexed.ask_append, h.next_flatMap hlead]
      cases n with
      | zero => rw [Lexed.answer, hask, List.map_cons, List.getElem?_cons_zero]
      | succ n =>
          -- from behind the word on, the white space behind it leads the rest
          have hrest := ih h.tail x.blank (read ++ lead ++ x.word) n
          rw [Lexed.answer, hask, List.map_cons, List.getElem?_cons_succ, ← hrest]
          simp only [List.flatMap_cons, text, List.append_assoc, List.length_append, Nat.add_assoc]

end Spelling

/-- **Reading undoes spelling.** Let tokens be spelled, one behind the other with white space
between them and any white space around them. However they are spelled, these are the tokens of the
text, and a reader that is asked for one token after the other answers with them in order, and from
then on that there are no more. Every token but numbers with a point or a sign has a spelling; names
are not words of the language. -/
theorem answer_spelled :
    (∀ t : Token, (∃ word, Token.Spells word t) ↔ t.Spellable) ∧
    ∀ (lead : Text) (spellings : List Spelling), lead.all Text.isBlank = true →
      Spelling.Apart spellings →
      Grammar.Lexes 0 (lead ++ spellings.flatMap Spelling.text) (spellings.map (·.token)) ∧
      ∀ n, Lexed.answer (lead ++ spellings.flatMap Spelling.text) 0 n =
        .ok (spellings.map (·.token))[n]? :=
  ⟨fun _ => Token.exists_spells_iff, fun _ _ hlead h =>
    ⟨h.lexes_flatMap hlead 0, h.answer_flatMap hlead []⟩⟩

/-- A string with escapes, both spellings of an operator, a number with zeros, and a name that goes
on from a word of the language. -/
theorem answer_spelled_escapes :
    let text : Text := " 'it\\'s\\n\\\\' \n==\t007 eq order\t ".toList
    let tokens : List Token :=
      [.string "it's\n\\".toList, .equal, .integer 7, .equal, .name "order".toList]
    Grammar.Lexes 0 text tokens ∧ ∀ n, Lexed.answer text 0 n = .ok tokens[n]? := by
  intro text tokens
  have hstring : Token.Quotes '\'' "it\\'s\\n\\\\".toList "it's\n\\".toList :=
    .raw (by decide) (by decide) (.raw (by decide) (by decide) (.escaped (by decide)
      (.raw (by decide) (by decide) (.escaped (by decide) (.escaped (by decide) .nil)))))
  have hfree : ∀ t : Token, t.inLetters? ≠ some "order".toList := by
    intro t h
    have hword := (Lexed.wordToken_of_inLetters? h).2
    cases (hword ▸ h : (wordToken "order".toList).inLetters? = some "order".toList)
  let spellings : List Spelling := [
    ⟨.string "it's\n\\".toList, _, " \n".toList, .string (.inr rfl) hstring, by decide⟩,
    ⟨.equal, "==".toList, "\t".toList, .symbols rfl, by decide⟩,
    ⟨.integer 7, "007".toList, " ".toList, .integer 2 (n := 7) (by decide), by decide⟩,
    ⟨.equal, "eq".toList, " ".toList, .letters rfl, by decide⟩,
    ⟨.name "order".toList, "order".toList, "\t ".toList, .name (by decide) hfree, by decide⟩]
  have happart : Spelling.Apart spellings := by
    simp [Spelling.Apart, spellings]
  exact answer_spelled.2 " ".toList spellings (by decide) happart

end DynamicSql
