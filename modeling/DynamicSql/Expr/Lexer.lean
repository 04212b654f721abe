import DynamicSql.Expr.Token
import DynamicSql.Number.Nearest
import DynamicSql.Table
import DynamicSql.Text.Blank
import DynamicSql.Text.Letter

/-!
# Reading tokens

`Lexed.next` reads one token from the start of a text. White space before a token is skipped;
positions count characters from the start of the expression, and a token is reported with the
position behind it.

Names begin with a letter or underscore and go on with letters, numerals and underscores. Numbers
are ASCII digits, with a point if a digit follows it. Strings stand between single or double
quotes, with escapes for both quotes, the backslash, and newline, tab and carriage return.

`TokenStream` is the whole of an expression in tokens, up to its end or to the first fault.
-/

namespace DynamicSql

/-- Why a text has no token at some position. -/
inductive LexError where
  /-- No token begins with the character. -/
  | unexpectedChar (c : Char) (position : Nat)
  /-- The string that begins at the position does not end. -/
  | unterminatedString (position : Nat)
  /-- The character stands behind a backslash and is no escape. -/
  | invalidEscape (c : Char) (position : Nat)
  /-- The digits that begin at the position are too large a number. -/
  | invalidNumber (literal : Text) (position : Nat)
  deriving DecidableEq

/-- The text of the error. -/
def LexError.message : LexError → String
  | unexpectedChar c p => s!"unexpected character '{c}' at position {p}"
  | unterminatedString p => s!"unterminated string literal starting at position {p}"
  | invalidEscape c p => s!"invalid escape sequence '\\{c}' at position {p}"
  | invalidNumber l p => s!"invalid number literal '{String.ofList l}' at position {p}"

/-! ## Symbols and keywords -/

/-- The token written in symbols that leads a text, and what follows it. -/
def symbol? : Text → Option (Token × Text)
  | '.' :: rest => some (.dot, rest)
  | ',' :: rest => some (.comma, rest)
  | '+' :: rest => some (.plus, rest)
  | '-' :: rest => some (.minus, rest)
  | '*' :: rest => some (.star, rest)
  | '/' :: rest => some (.slash, rest)
  | '%' :: rest => some (.percent, rest)
  | '(' :: rest => some (.leftParen, rest)
  | ')' :: rest => some (.rightParen, rest)
  | '[' :: rest => some (.leftBracket, rest)
  | ']' :: rest => some (.rightBracket, rest)
  | '=' :: '=' :: rest => some (.equal, rest)
  | '&' :: '&' :: rest => some (.and, rest)
  | '|' :: '|' :: rest => some (.or, rest)
  | '!' :: '=' :: rest => some (.notEqual, rest)
  | '!' :: rest => some (.not, rest)
  | '<' :: '=' :: rest => some (.lessEqual, rest)
  | '<' :: rest => some (.less, rest)
  | '>' :: '=' :: rest => some (.greaterEqual, rest)
  | '>' :: rest => some (.greater, rest)
  | _ => none

/-- The words that are no names, with the tokens they stand for. -/
def keywords : List (Text × Token) := [
  ("and".toList, .and), ("or".toList, .or), ("not".toList, .not),
  ("eq".toList, .equal), ("neq".toList, .notEqual),
  ("lt".toList, .less), ("gt".toList, .greater),
  ("lte".toList, .lessEqual), ("gte".toList, .greaterEqual),
  ("true".toList, .boolean true), ("false".toList, .boolean false), ("null".toList, .null)]

/-- The token of a word: a keyword's token, else a name. -/
def wordToken (word : Text) : Token := (Table.lookup word keywords).getD (.name word)

/-! ## Strings and numbers -/

/-- The rest of a string literal after its opening quote. -/
inductive StringBody where
  /-- The string ends; `rest` follows its closing quote. -/
  | closed (content rest : Text)
  /-- The text ends before the string. -/
  | unterminated
  /-- A backslash stands before `c`, which is no escape and has `rest` behind it. -/
  | badEscape (c : Char) (rest : Text)

namespace StringBody

/-- The same body with one character more at the start of its content. -/
def cons (c : Char) : StringBody → StringBody
  | closed content rest => closed (c :: content) rest
  | other => other

/-- The character that an escape stands for. -/
def escape? : Char → Option Char
  | 'n' => some '\n'
  | 't' => some '\t'
  | 'r' => some '\r'
  | '"' => some '"'
  | '\'' => some '\''
  | '\\' => some '\\'
  | _ => none

/-- Reads a string literal up to its closing quote. -/
def read (quote : Char) : Text → StringBody
  | [] => unterminated
  | c :: rest =>
    if c = quote then closed [] rest
    else if c = '\\' then
      match rest with
      | [] => unterminated
      | e :: rest =>
        match escape? e with
        | some c => (read quote rest).cons c
        | none => badEscape e rest
    else (read quote rest).cons c

end StringBody

/-- The parts of a number that leads a text: its digits, the digits after its point, if it has
one, and what follows it. -/
def numberParts (s : Text) : Text × Option Text × Text :=
  let whole := s.takeWhile Char.isDigit
  match s.dropWhile Char.isDigit with
  | '.' :: d :: rest =>
    if d.isDigit then
      (whole, some ((d :: rest).takeWhile Char.isDigit), (d :: rest).dropWhile Char.isDigit)
    else (whole, none, '.' :: d :: rest)
  | rest => (whole, none, rest)

/-- The floating-point number nearest to the one with these digits before and after the point. -/
def pointedNumber (whole fraction : Text) : Float :=
  Number.ofDecimal (Text.toNat (whole ++ fraction)) (-(fraction.length : Int))

/-! ## One token -/

/-- What a text begins with. -/
inductive Lexed where
  /-- A token, which ends at position `stop` and has `rest` behind it. -/
  | token (t : Token) (stop : Nat) (rest : Text)
  /-- Nothing but white space, up to position `stop`. -/
  | ended (stop : Nat)
  /-- No token; reading stopped at position `stop`. -/
  | fault (e : LexError) (stop : Nat)

namespace Lexed

/-- Reads a string literal that begins at `start`, after its opening quote. -/
def ofString (start : Nat) (quote : Char) (body : Text) : Lexed :=
  let behind (rest : Text) : Nat := start + 1 + (body.length - rest.length)
  match StringBody.read quote body with
  | .closed content rest => .token (.string content) (behind rest) rest
  | .unterminated => .fault (.unterminatedString start) (behind [])
  | .badEscape c rest => .fault (.invalidEscape c (behind (c :: rest))) (behind (c :: rest))

/-- Reads a number that begins at `start`. -/
def ofNumber (start : Nat) (s : Text) : Lexed :=
  let (whole, fraction, rest) := numberParts s
  let stop := start + (s.length - rest.length)
  match fraction with
  | some fraction => .token (.float (pointedNumber whole fraction)) stop rest
  | none =>
    let n := Text.toNat whole
    if n < Nat.pow 2 63 then .token (.integer (Int64.ofNat n)) stop rest
    else .fault (.invalidNumber whole start) stop

/-- Reads the token that begins at `start`, where no white space is. -/
def ofStart (start : Nat) (s : Text) : Lexed :=
  match symbol? s with
  | some (t, rest) => .token t (start + (s.length - rest.length)) rest
  | none =>
    match s with
    | [] => .ended start
    | c :: rest =>
      if c = '"' ∨ c = '\'' then ofString start c rest
      else if Text.startsName c then
        let word := s.takeWhile Text.continuesName
        .token (wordToken word) (start + word.length) (s.dropWhile Text.continuesName)
      else if c.isDigit then ofNumber start s
      else .fault (.unexpectedChar c start) start

/-- Reads the token after the white space that leads a text at position `start`. -/
def next (start : Nat) (s : Text) : Lexed :=
  let body := Text.trimStart s
  ofStart (start + (s.length - body.length)) body

end Lexed

/-! ## Every token is shorter than what it is read from -/

theorem length_dropWhile_le {α : Type} (p : α → Bool) (l : List α) :
    (l.dropWhile p).length ≤ l.length :=
  List.Sublist.length_le (List.dropWhile_sublist p)

theorem length_of_symbol? {s rest : Text} {t : Token} (h : symbol? s = some (t, rest)) :
    rest.length < s.length := by
  unfold symbol? at h
  split at h <;> cases h <;> simp only [List.length_cons] <;> omega

theorem StringBody.exists_of_cons_eq {c : Char} {body : StringBody} {content rest : Text}
    (h : body.cons c = closed content rest) : ∃ content', body = closed content' rest := by
  cases body with
  | closed content' rest' => cases h; exact ⟨_, rfl⟩
  | unterminated => cases h
  | badEscape => cases h

theorem StringBody.length_of_read {quote : Char} {s content rest : Text}
    (h : read quote s = closed content rest) : rest.length < s.length := by
  fun_induction read quote s generalizing content <;> try cases h
  all_goals try simp only [List.length_cons]
  · omega
  · next ih =>
    obtain ⟨_, h'⟩ := exists_of_cons_eq h
    have := ih h'
    omega
  · next ih =>
    obtain ⟨_, h'⟩ := exists_of_cons_eq h
    have := ih h'
    omega

theorem length_of_numberParts {c : Char} {s : Text} (hc : c.isDigit = true) :
    (numberParts (c :: s)).2.2.length < (c :: s).length := by
  have hle := length_dropWhile_le Char.isDigit s
  have hdrop : (c :: s).dropWhile Char.isDigit = s.dropWhile Char.isDigit := by
    simp [hc]
  simp only [numberParts, hdrop]
  split
  · next d rest heq =>
    have := length_dropWhile_le Char.isDigit (d :: rest)
    rw [heq] at hle
    simp only [List.length_cons] at hle this ⊢
    split
    · simp only; omega
    · simp only [List.length_cons]; omega
  · simp only [List.length_cons]; omega

theorem Lexed.length_of_ofStart {start stop : Nat} {s rest : Text} {t : Token}
    (h : ofStart start s = .token t stop rest) : rest.length < s.length := by
  unfold ofStart at h
  split at h
  · next heq => cases h; exact length_of_symbol? heq
  · split at h
    · cases h
    · next c s' _ =>
      split at h
      · unfold ofString at h
        split at h
        · next heq =>
          cases h
          have := StringBody.length_of_read heq
          simp only [List.length_cons]; omega
        · cases h
        · cases h
      · split at h
        · next hc =>
          cases h
          have := length_dropWhile_le Text.continuesName s'
          have hc' := Text.continuesName_of_startsName hc
          simp only [List.dropWhile_cons, hc', if_true, List.length_cons]; omega
        · split at h
          · next hd =>
            have := length_of_numberParts (s := s') hd
            unfold ofNumber at h
            split at h
            next whole fraction rest' heq =>
            simp only at h
            rw [heq] at this
            split at h
            · cases h; exact this
            · split at h
              · cases h; exact this
              · cases h
          · cases h

/-- **Reading makes progress**: what follows a token is shorter than the text it leads. -/
theorem Lexed.length_of_next {start stop : Nat} {s rest : Text} {t : Token}
    (h : next start s = .token t stop rest) : rest.length < s.length := by
  have := length_of_ofStart h
  have := length_dropWhile_le Text.isBlank s
  simp only [Text.trimStart] at *
  omega

/-! ## All tokens -/

/-- The tokens of an expression, each with the position behind it. -/
inductive TokenStream where
  /-- A token and the tokens that follow it. -/
  | token (t : Token) (stop : Nat) (rest : TokenStream)
  /-- The end of the expression. -/
  | ended (stop : Nat)
  /-- The place where no token can be read. -/
  | fault (e : LexError) (stop : Nat)

namespace TokenStream

/-- The tokens of a text that begins at position `start`. -/
def ofText (start : Nat) (s : Text) : TokenStream :=
  match _h : Lexed.next start s with
  | .token t stop rest => .token t stop (ofText stop rest)
  | .ended stop => .ended stop
  | .fault e stop => .fault e stop
termination_by s.length
decreasing_by exact Lexed.length_of_next _h

/-- The number of tokens. -/
def size : TokenStream → Nat
  | token _ _ rest => rest.size + 1
  | ended _ | fault _ _ => 0

end TokenStream

end DynamicSql
