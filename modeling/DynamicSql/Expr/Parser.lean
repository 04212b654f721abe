import DynamicSql.Expr.Basic
import DynamicSql.Expr.Lexer

/-!
# Reading expressions

Expressions are read by recursive descent, one function for each level of the grammar:

    Or      = And {("or") And}
    And     = Compare {("and") Compare}
    Compare = Sum [one of == != < > <= >= Sum]
    Sum     = Product {(+ or -) Product}
    Product = Unary {(* or / or %) Unary}
    Unary   = (not or -) Unary, or Access
    Access  = Primary {[Or] or .name or .name(Arguments)}

Repeated operators group to the left; comparisons do not repeat. Arguments are separated by
commas, and one more comma may end them. Every function reads at least one token, so that what
it leaves is smaller than what it was given; the second component of a result carries the proof.
-/

namespace DynamicSql

/-- Why a text is no expression. -/
inductive ParseError where
  /-- The text cannot be divided into tokens. -/
  | lex (e : LexError)
  /-- Another token, or the end if `found` is none, stands where `expected` is needed; the
  position is the one behind it. -/
  | unexpected (expected : String) (found : Option Token) (position : Nat)
  /-- The text holds no token. -/
  | empty

/-- The text of the error. -/
def ParseError.message : ParseError → String
  | lex e => e.message
  | unexpected expected found position =>
    let shown := match found with
      | some t => t.describe
      | none => "Eof"
    s!"expected {expected}, found {shown} at position {position}"
  | empty => "empty expression"

namespace TokenStream

/-- The error of a reader that finds `s` where `expected` is needed. -/
def unexpected (expected : String) : TokenStream → ParseError
  | token t stop _ => .unexpected expected (some t) stop
  | ended stop => .unexpected expected none stop
  | fault e _ => .lex e

/-- The comparison that a token stands for. -/
def comparison? : Token → Option BinaryOperator
  | .equal => some .equal
  | .notEqual => some .notEqual
  | .less => some .lessThan
  | .greater => some .greaterThan
  | .lessEqual => some .lessEqual
  | .greaterEqual => some .greaterEqual
  | _ => none

/-- The operator of a sum that a token stands for. -/
def additive? : Token → Option BinaryOperator
  | .plus => some .add
  | .minus => some .subtract
  | _ => none

/-- The operator of a product that a token stands for. -/
def multiplicative? : Token → Option BinaryOperator
  | .star => some .multiply
  | .slash => some .divide
  | .percent => some .modulo
  | _ => none

/-- The operator before its operand that a token stands for. -/
def unary? : Token → Option UnaryOperator
  | .not => some .not
  | .minus => some .negate
  | _ => none

/-- Whether a token is a closing bracket. -/
def isRightBracket : Token → Bool
  | .rightBracket => true
  | _ => false

/-- Whether a token is a closing parenthesis. -/
def isRightParen : Token → Bool
  | .rightParen => true
  | _ => false

/-- What a reader makes of `s`: a result, and a smaller rest. -/
abbrev Reading (α : Type) (s : TokenStream) : Type :=
  Except ParseError (α × { rest : TokenStream // rest.size < s.size })

/-- What a reader makes of `s` that may read nothing: a result, and a rest that is no larger. -/
abbrev Extending (α : Type) (s : TokenStream) : Type :=
  Except ParseError (α × { rest : TokenStream // rest.size ≤ s.size })

/-- A reading of a rest of `s` is one of `s`. -/
def Reading.widen {α : Type} {s t : TokenStream} (h : t.size ≤ s.size) (r : Reading α t) :
    Reading α s :=
  r.map fun (a, rest) => (a, ⟨rest.1, Nat.lt_of_lt_of_le rest.2 h⟩)

/-- Going on with a smaller rest of `s` is a reading of `s`. -/
def Extending.narrow {α : Type} {s t : TokenStream} (h : t.size < s.size) (r : Extending α t) :
    Reading α s :=
  r.map fun (a, rest) => (a, ⟨rest.1, Nat.lt_of_le_of_lt rest.2 h⟩)

/-- Going on with a rest of `s` is going on with `s`. -/
def Extending.widen {α : Type} {s t : TokenStream} (h : t.size ≤ s.size) (r : Extending α t) :
    Extending α s :=
  r.map fun (a, rest) => (a, ⟨rest.1, Nat.le_trans rest.2 h⟩)

/-- Reads one token of the given kind. -/
def expect (kind : Token → Bool) (expected : String) :
    (s : TokenStream) → Except ParseError { rest : TokenStream // rest.size < s.size }
  | .token t stop after =>
    if kind t then .ok ⟨after, Nat.lt_succ_self _⟩
    else .error ((token t stop after).unexpected expected)
  | s => .error (s.unexpected expected)

mutual

/-- Reads alternatives joined by `or`. -/
def readOr (s : TokenStream) : Reading Expr s :=
  match readAnd s with
  | .error e => .error e
  | .ok (left, ⟨rest, h⟩) => (continueOr left rest).narrow h
termination_by (s.size, 14)
decreasing_by all_goals omega

/-- Reads the further alternatives after `left`. -/
def continueOr (left : Expr) : (s : TokenStream) → Extending Expr s
  | .token .or _ after =>
    match readAnd after with
    | .error e => .error e
    | .ok (right, ⟨rest, h⟩) =>
      (continueOr (.binary .or left right) rest).widen (Nat.le_succ_of_le (Nat.le_of_lt h))
  | s => .ok (left, ⟨s, Nat.le_refl _⟩)
termination_by s => (s.size, 13)
decreasing_by all_goals (simp only [size] at *; omega)

/-- Reads conditions joined by `and`. -/
def readAnd (s : TokenStream) : Reading Expr s :=
  match readCompare s with
  | .error e => .error e
  | .ok (left, ⟨rest, h⟩) => (continueAnd left rest).narrow h
termination_by (s.size, 12)
decreasing_by all_goals omega

/-- Reads the further conditions after `left`. -/
def continueAnd (left : Expr) : (s : TokenStream) → Extending Expr s
  | .token .and _ after =>
    match readCompare after with
    | .error e => .error e
    | .ok (right, ⟨rest, h⟩) =>
      (continueAnd (.binary .and left right) rest).widen (Nat.le_succ_of_le (Nat.le_of_lt h))
  | s => .ok (left, ⟨s, Nat.le_refl _⟩)
termination_by s => (s.size, 11)
decreasing_by all_goals (simp only [size] at *; omega)

/-- Reads a sum, or a comparison of two. -/
def readCompare (s : TokenStream) : Reading Expr s :=
  match readSum s with
  | .error e => .error e
  | .ok (left, ⟨rest, h⟩) => (continueCompare left rest).narrow h
termination_by (s.size, 10)
decreasing_by all_goals omega

/-- Reads what `left` is compared with, if a comparison follows. -/
def continueCompare (left : Expr) : (s : TokenStream) → Extending Expr s
  | .token t stop after =>
    match comparison? t with
    | none => .ok (left, ⟨.token t stop after, Nat.le_refl _⟩)
    | some op =>
      match readSum after with
      | .error e => .error e
      | .ok (right, ⟨rest, h⟩) =>
        .ok (.binary op left right, ⟨rest, Nat.le_succ_of_le (Nat.le_of_lt h)⟩)
  | s => .ok (left, ⟨s, Nat.le_refl _⟩)
termination_by s => (s.size, 10)
decreasing_by all_goals (simp only [size] at *; omega)

/-- Reads a sum. -/
def readSum (s : TokenStream) : Reading Expr s :=
  match readProduct s with
  | .error e => .error e
  | .ok (left, ⟨rest, h⟩) => (continueSum left rest).narrow h
termination_by (s.size, 9)
decreasing_by all_goals omega

/-- Reads the further terms after `left`. -/
def continueSum (left : Expr) : (s : TokenStream) → Extending Expr s
  | .token t stop after =>
    match additive? t with
    | none => .ok (left, ⟨.token t stop after, Nat.le_refl _⟩)
    | some op =>
      match readProduct after with
      | .error e => .error e
      | .ok (right, ⟨rest, h⟩) =>
        (continueSum (.binary op left right) rest).widen (Nat.le_succ_of_le (Nat.le_of_lt h))
  | s => .ok (left, ⟨s, Nat.le_refl _⟩)
termination_by s => (s.size, 8)
decreasing_by all_goals (simp only [size] at *; omega)

/-- Reads a product. -/
def readProduct (s : TokenStream) : Reading Expr s :=
  match readUnary s with
  | .error e => .error e
  | .ok (left, ⟨rest, h⟩) => (continueProduct left rest).narrow h
termination_by (s.size, 7)
decreasing_by all_goals omega

/-- Reads the further factors after `left`. -/
def continueProduct (left : Expr) : (s : TokenStream) → Extending Expr s
  | .token t stop after =>
    match multiplicative? t with
    | none => .ok (left, ⟨.token t stop after, Nat.le_refl _⟩)
    | some op =>
      match readUnary after with
      | .error e => .error e
      | .ok (right, ⟨rest, h⟩) =>
        (continueProduct (.binary op left right) rest).widen (Nat.le_succ_of_le (Nat.le_of_lt h))
  | s => .ok (left, ⟨s, Nat.le_refl _⟩)
termination_by s => (s.size, 6)
decreasing_by all_goals (simp only [size] at *; omega)

/-- Reads an operand with the operators before it. -/
def readUnary (s : TokenStream) : Reading Expr s :=
  match s with
  | .token t stop after =>
    match unary? t with
    | none => readAccess (.token t stop after)
    | some op =>
      match readUnary after with
      | .error e => .error e
      | .ok (operand, ⟨rest, h⟩) => .ok (.unary op operand, ⟨rest, Nat.lt_succ_of_lt h⟩)
  | s => readAccess s
termination_by (s.size, 5)
decreasing_by
  · omega
  · simp only [size]; omega
  · omega

/-- Reads a primary expression and what is accessed in it. -/
def readAccess (s : TokenStream) : Reading Expr s :=
  match readPrimary s with
  | .error e => .error e
  | .ok (object, ⟨rest, h⟩) => (continueAccess object rest).narrow h
termination_by (s.size, 4)
decreasing_by all_goals omega

/-- Reads the further indices, fields and calls after `object`. -/
def continueAccess (object : Expr) : (s : TokenStream) → Extending Expr s
  | .token .leftBracket _ after =>
    match readOr after with
    | .error e => .error e
    | .ok (index, ⟨rest, h⟩) =>
      match rest.expect isRightBracket "']'" with
      | .error e => .error e
      | .ok ⟨rest', h'⟩ =>
        (continueAccess (.index object index) rest').widen
          (Nat.le_succ_of_le (Nat.le_of_lt (Nat.lt_trans h' h)))
  | .token .dot _ (.token (.name name) _ (.token .leftParen _ after)) =>
    match readArguments after with
    | .error e => .error e
    | .ok (arguments, ⟨rest, h⟩) =>
      (continueAccess (.call object name arguments) rest).widen
        (Nat.le_succ_of_le (Nat.le_succ_of_le (Nat.le_succ_of_le (Nat.le_of_lt h))))
  | .token .dot _ (.token (.name name) _ after) =>
    (continueAccess (.field object name) after).widen
      (Nat.le_succ_of_le (Nat.le_succ_of_le (Nat.le_refl _)))
  | .token .dot _ after => .error (after.unexpected "a name after '.'")
  | s => .ok (object, ⟨s, Nat.le_refl _⟩)
termination_by s => (s.size, 3)
decreasing_by all_goals (simp only [size] at *; omega)

/-- Reads the arguments of a call up to its closing parenthesis. -/
def readArguments (s : TokenStream) : Reading (List Expr) s :=
  match s with
  | .token .rightParen _ after => .ok ([], ⟨after, Nat.lt_succ_self _⟩)
  | s =>
    match readOr s with
    | .error e => .error e
    | .ok (argument, ⟨rest, h⟩) =>
      match continueArguments rest with
      | .error e => .error e
      | .ok (arguments, ⟨rest', h'⟩) => .ok (argument :: arguments, ⟨rest', Nat.lt_trans h' h⟩)
termination_by (s.size, 15)
decreasing_by all_goals omega

/-- Reads the further arguments of a call up to its closing parenthesis. -/
def continueArguments : (s : TokenStream) → Reading (List Expr) s
  | .token .rightParen _ after => .ok ([], ⟨after, Nat.lt_succ_self _⟩)
  | .token .comma _ after => (readArguments after).widen (Nat.le_succ _)
  | s => .error (s.unexpected "',' or ')'")
termination_by s => (s.size, 1)
decreasing_by all_goals (simp only [size] at *; omega)

/-- Reads a literal, a name, or an expression in parentheses. -/
def readPrimary : (s : TokenStream) → Reading Expr s
  | .token (.float x) _ after => .ok (.float x, ⟨after, Nat.lt_succ_self _⟩)
  | .token (.integer n) _ after => .ok (.integer n, ⟨after, Nat.lt_succ_self _⟩)
  | .token (.string s) _ after => .ok (.string s, ⟨after, Nat.lt_succ_self _⟩)
  | .token (.boolean b) _ after => .ok (.boolean b, ⟨after, Nat.lt_succ_self _⟩)
  | .token .null _ after => .ok (.null, ⟨after, Nat.lt_succ_self _⟩)
  | .token (.name n) _ after => .ok (.ref n, ⟨after, Nat.lt_succ_self _⟩)
  | .token .leftParen _ after =>
    match readOr after with
    | .error e => .error e
    | .ok (e, ⟨rest, h⟩) =>
      match rest.expect isRightParen "')'" with
      | .error e => .error e
      | .ok ⟨rest', h'⟩ => .ok (e, ⟨rest', Nat.lt_succ_of_lt (Nat.lt_trans h' h)⟩)
  | s => .error (s.unexpected "a literal, a name or '('")
termination_by s => (s.size, 2)
decreasing_by all_goals (simp only [size] at *; omega)

end

/-- Reads an expression that takes up the whole stream. -/
def readAll (s : TokenStream) : Except ParseError Expr :=
  match s with
  | .ended _ => .error .empty
  | s =>
    match readOr s with
    | .error e => .error e
    | .ok (e, ⟨rest, _⟩) =>
      match rest with
      | .ended _ => .ok e
      | rest => .error (rest.unexpected "end of expression")

end TokenStream

/-- The expression that a text stands for. -/
def Expr.parse (s : Text) : Except ParseError Expr := (TokenStream.ofText 0 s).readAll

end DynamicSql
