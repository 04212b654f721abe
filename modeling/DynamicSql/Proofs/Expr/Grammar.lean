import DynamicSql.Expr.Parser
import DynamicSql.Proofs.Expr.Lexing

/-!
# The grammar of expressions

The rules by which a list of tokens stands for an expression, without a word on how it is read:

    Or        = And, or Or "or" And
    And       = Compare, or And "and" Compare
    Compare   = Sum, or Sum (== != < > <= >=) Sum
    Sum       = Product, or Sum (+ -) Product
    Product   = Unary, or Product (* / %) Unary
    Unary     = Access, or (not -) Unary
    Access    = Primary, or Access "[" Or "]", or Access "." name,
                or Access "." name "(" Arguments ")"
    Primary   = a literal, or a name, or "(" Or ")"
    Arguments = nothing, or Or, or Or "," Arguments

The left operand of a repeated operator is a phrase of its own level, so that repeated operators
group to the left. The operands of a comparison are sums, so that comparisons do not repeat. A comma
may stand behind the last argument, as nothing are arguments.
-/

namespace DynamicSql

namespace Grammar

/-! ## Levels -/

/-- The kinds of phrases that stand for an expression, from the loosest to the tightest. -/
inductive Level where
  /-- Alternatives. -/
  | or
  /-- Conditions. -/
  | and
  /-- Comparisons. -/
  | compare
  /-- Sums. -/
  | sum
  /-- Products. -/
  | product
  /-- Operands with operators before them. -/
  | unary
  /-- Operands with accesses behind them. -/
  | access
  /-- Literals, names, and expressions in parentheses. -/
  | primary
  deriving DecidableEq

/-- The next tighter level. -/
def Level.tighter : Level → Level
  | or => and
  | and => compare
  | compare => sum
  | sum => product
  | product => unary
  | unary => access
  | access => primary
  | primary => primary

/-- The operator between the operands of a phrase that a token stands for. -/
def Level.operator? : Level → Token → Option BinaryOperator
  | or, .or => some .or
  | and, .and => some .and
  | compare, .equal => some .equal
  | compare, .notEqual => some .notEqual
  | compare, .less => some .lessThan
  | compare, .greater => some .greaterThan
  | compare, .lessEqual => some .lessEqual
  | compare, .greaterEqual => some .greaterEqual
  | sum, .plus => some .add
  | sum, .minus => some .subtract
  | product, .star => some .multiply
  | product, .slash => some .divide
  | product, .percent => some .modulo
  | _, _ => none

/-- The operator before an operand that a token stands for. -/
def sign? : Token → Option UnaryOperator
  | .not => some .not
  | .minus => some .negate
  | _ => none

/-- The expression that a single token stands for: a literal or a name. -/
def atom? : Token → Option Expr
  | .float x => some (.float x)
  | .integer n => some (.integer n)
  | .string s => some (.string s)
  | .boolean b => some (.boolean b)
  | .null => some .null
  | .name n => some (.ref n)
  | _ => none

/-! ## Rules -/

mutual

/-- The expressions that a list of tokens stands for as a phrase of a level. -/
inductive Derives : Level → List Token → Expr → Prop
  /-- A phrase of the next tighter level. -/
  | pass {level : Level} {ts : List Token} {e : Expr} (hlevel : level ≠ .primary) :
      Derives level.tighter ts e → Derives level ts e
  /-- A further operand behind an operator that may be repeated. -/
  | join {level : Level} {t : Token} {op : BinaryOperator} {ts us : List Token} {left right : Expr}
      (hlevel : level ≠ .compare) (hop : level.operator? t = some op) :
      Derives level ts left → Derives level.tighter us right →
        Derives level (ts ++ t :: us) (.binary op left right)
  /-- A comparison of two sums. -/
  | compare {t : Token} {op : BinaryOperator} {ts us : List Token} {left right : Expr}
      (hop : Level.compare.operator? t = some op) :
      Derives .sum ts left → Derives .sum us right →
        Derives .compare (ts ++ t :: us) (.binary op left right)
  /-- An operator before its operand. -/
  | unary {t : Token} {op : UnaryOperator} {ts : List Token} {operand : Expr}
      (hop : sign? t = some op) :
      Derives .unary ts operand → Derives .unary (t :: ts) (.unary op operand)
  /-- An index behind its object. -/
  | index {ts us : List Token} {object position : Expr} :
      Derives .access ts object → Derives .or us position →
        Derives .access (ts ++ .leftBracket :: (us ++ [.rightBracket])) (.index object position)
  /-- A field behind its object. -/
  | field {ts : List Token} {object : Expr} {name : Text} :
      Derives .access ts object →
        Derives .access (ts ++ [.dot, .name name]) (.field object name)
  /-- A call behind its object. -/
  | call {ts us : List Token} {object : Expr} {method : Text} {arguments : List Expr} :
      Derives .access ts object → Arguments us arguments →
        Derives .access (ts ++ .dot :: .name method :: .leftParen :: (us ++ [.rightParen]))
          (.call object method arguments)
  /-- A literal or a name. -/
  | atom {t : Token} {e : Expr} (hatom : atom? t = some e) : Derives .primary [t] e
  /-- An expression in parentheses. -/
  | parens {ts : List Token} {e : Expr} :
      Derives .or ts e → Derives .primary (.leftParen :: (ts ++ [.rightParen])) e

/-- The arguments that a list of tokens stands for. -/
inductive Arguments : List Token → List Expr → Prop
  /-- No arguments. -/
  | none : Arguments [] []
  /-- A last argument. -/
  | last {ts : List Token} {e : Expr} : Derives .or ts e → Arguments ts [e]
  /-- An argument and a comma before what may be further arguments. -/
  | more {ts us : List Token} {e : Expr} {es : List Expr} :
      Derives .or ts e → Arguments us es → Arguments (ts ++ .comma :: us) (e :: es)

end

/-- Whether a text that begins at a position is divided into tokens, up to its end. -/
inductive Lexes : Nat → Text → List Token → Prop
  /-- Nothing but white space. -/
  | ended {start stop : Nat} {s : Text} (h : Lexed.next start s = .ended stop) : Lexes start s []
  /-- A token and the tokens of what follows it. -/
  | token {start stop : Nat} {s rest : Text} {t : Token} {ts : List Token}
      (h : Lexed.next start s = .token t stop rest) : Lexes stop rest ts → Lexes start s (t :: ts)

/-- Nothing has no tokens. -/
lemma lexes_nil (start : Nat) : Lexes start [] [] := .ended rfl

/-- A token that a text begins with is the first of its tokens. -/
lemma Lexes.of_begins {s rest : Text} {t : Token} {ts : List Token} (h : Lexed.Begins s t rest)
    (hrest : ∀ start, Lexes start rest ts) (start : Nat) : Lexes start s (t :: ts) := by
  obtain ⟨stop, hnext⟩ := h start
  exact .token hnext (hrest stop)

/-- An operand is an expression. -/
lemma Derives.of_unary {ts : List Token} {e : Expr} (h : Derives .unary ts e) :
    Derives .or ts e := by
  have hproduct : Derives .product ts e := .pass nofun h
  have hsum : Derives .sum ts e := .pass nofun hproduct
  have hcompare : Derives .compare ts e := .pass nofun hsum
  have hand : Derives .and ts e := .pass nofun hcompare
  exact .pass nofun hand

end Grammar

/-! ## Streams that begin with given tokens -/

namespace TokenStream

/-- Whether a stream begins with the given tokens and goes on with the given rest. -/
def Reads : TokenStream → List Token → TokenStream → Prop
  | s, [], rest => s = rest
  | token t _ after, u :: us, rest => t = u ∧ after.Reads us rest
  | _, _ :: _, _ => False

variable {s rest after : TokenStream} {t : Token} {ts us : List Token} {stop : Nat}

@[simp] lemma reads_nil : s.Reads [] rest ↔ s = rest := by
  rw [Reads]

@[simp] lemma token_reads_cons :
    (token t stop after).Reads (t :: ts) rest ↔ after.Reads ts rest := by
  rw [Reads, and_iff_right rfl]

/-- A stream that begins with a token is that token before the rest of the tokens. -/
lemma reads_cons : s.Reads (t :: ts) rest ↔
    ∃ stop after, s = token t stop after ∧ after.Reads ts rest := by
  cases s with
  | token u stop after =>
      rw [Reads]
      constructor
      · rintro ⟨rfl, h⟩
        exact ⟨stop, after, rfl, h⟩
      · rintro ⟨_, _, heq, h⟩
        obtain ⟨rfl, rfl, rfl⟩ := TokenStream.token.inj heq
        exact ⟨rfl, h⟩
  | ended stop => simp [Reads]
  | fault e stop => simp [Reads]

/-- Tokens in a row are read one list after the other. -/
lemma reads_append :
    s.Reads (ts ++ us) rest ↔ ∃ between, s.Reads ts between ∧ between.Reads us rest := by
  induction ts generalizing s with
  | nil => simp
  | cons t ts ih =>
      simp only [List.cons_append, reads_cons, ih]
      constructor
      · rintro ⟨stop, after, rfl, between, hts, hus⟩
        exact ⟨between, ⟨stop, after, rfl, hts⟩, hus⟩
      · rintro ⟨between, ⟨stop, after, rfl, hts⟩, hus⟩
        exact ⟨stop, after, rfl, between, hts, hus⟩

/-- A stream of given tokens. -/
def ofTokens : List Token → TokenStream
  | [] => ended 0
  | t :: ts => token t 0 (ofTokens ts)

lemma reads_ofTokens (ts : List Token) : (ofTokens ts).Reads ts (ended 0) := by
  induction ts with
  | nil => exact reads_nil.2 rfl
  | cons t ts ih => exact token_reads_cons.2 ih

section text

variable {start stop : Nat} {text behind : Text}

/-- The stream of a text begins with its first token. -/
lemma ofText_of_token (h : Lexed.next start text = .token t stop behind) :
    ofText start text = token t stop (ofText stop behind) := by
  rw [ofText]
  split
  · next heq =>
    cases h.symm.trans heq
    rfl
  · next heq => cases h.symm.trans heq
  · next heq => cases h.symm.trans heq

/-- The stream of a text without tokens is at its end. -/
lemma ofText_of_ended (h : Lexed.next start text = .ended stop) :
    ofText start text = ended stop := by
  rw [ofText]
  split
  · next heq => cases h.symm.trans heq
  · next heq =>
    cases h.symm.trans heq
    rfl
  · next heq => cases h.symm.trans heq

/-- What a stream begins with is read at the start of its text. -/
lemma next_of_ofText (h : ofText start text = token t stop after) :
    ∃ behind, Lexed.next start text = .token t stop behind ∧ after = ofText stop behind := by
  rw [ofText] at h
  split at h
  · next heq =>
    cases h
    exact ⟨_, heq, rfl⟩
  · cases h
  · cases h

/-- A stream that is at its end has nothing to read. -/
lemma next_of_ofText_eq_ended (h : ofText start text = ended stop) :
    Lexed.next start text = .ended stop := by
  rw [ofText] at h
  split at h
  · cases h
  · next heq =>
    cases h
    exact heq
  · cases h

/-- **The tokens of a text** are those that its stream has up to the end. -/
theorem lexes_iff :
    Grammar.Lexes start text ts ↔ ∃ stop, (ofText start text).Reads ts (ended stop) := by
  constructor
  · intro h
    induction h with
    | ended h => exact ⟨_, reads_nil.2 (ofText_of_ended h)⟩
    | token h _ ih =>
        obtain ⟨stop, ih⟩ := ih
        rw [ofText_of_token h]
        exact ⟨stop, token_reads_cons.2 ih⟩
  · rintro ⟨stop, h⟩
    induction ts generalizing start text with
    | nil => exact .ended (next_of_ofText_eq_ended (reads_nil.1 h))
    | cons t ts ih =>
        obtain ⟨_, _, hstream, h⟩ := reads_cons.1 h
        obtain ⟨behind, hnext, rfl⟩ := next_of_ofText hstream
        exact .token hnext (ih h)

end text

end TokenStream

end DynamicSql
