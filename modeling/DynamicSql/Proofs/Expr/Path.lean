import DynamicSql.Eval
import DynamicSql.Proofs.Expr.Completeness

/-!
# Paths

A path goes from a value to a part of it, by fields and positions. Written behind a name it is an
expression, and the value of that expression is what the path leads to from the value of the name
(`Bindings.eval_path`).
-/

namespace DynamicSql

/-- Whether a text is a name that is no keyword. -/
def isIdentifier (s : Text) : Bool := Text.isName s && (Table.lookup s keywords).isNone

/-- One step of a path. -/
inductive Accessor where
  /-- A field, `.name`. -/
  | field (name : Text)
  /-- A position in decimal, `[digits]` or `[-digits]`. -/
  | index (negative : Bool) (digits : Text)
  deriving DecidableEq

namespace Accessor

/-- What stands between the brackets of a position. -/
def literal (negative : Bool) (digits : Text) : Text := if negative then '-' :: digits else digits

/-- The number that a position stands for. -/
def position (negative : Bool) (digits : Text) : Int64 :=
  if negative then Int64.ofInt (-(Text.toNat digits : Int)) else Int64.ofNat (Text.toNat digits)

/-- The step as it is written. -/
def text : Accessor → Text
  | field name => '.' :: name
  | index negative digits => '[' :: (literal negative digits ++ [']'])

/-- Whether fields are identifiers and positions are numbers of 64 bits. -/
def isValid : Accessor → Bool
  | field name => isIdentifier name
  | index _ digits =>
    !digits.isEmpty && digits.all Char.isDigit && decide (Text.toNat digits < Nat.pow 2 63)

/-- The step from a value. -/
def apply : Accessor → Value → Except EvalError Value
  | field name, v => Eval.field name v
  | index negative digits, v => Eval.index v (.integer (position negative digits))

/-- The expression of a position. -/
def positionExpr (negative : Bool) (digits : Text) : Expr :=
  if negative then .unary .negate (.integer (Int64.ofNat (Text.toNat digits)))
  else .integer (Int64.ofNat (Text.toNat digits))

/-- The expression of a step from an object. -/
def expr : Accessor → Expr → Expr
  | field name, object => .field object name
  | index negative digits, object => .index object (positionExpr negative digits)

/-- The tokens of a position. -/
def positionTokens (negative : Bool) (digits : Text) : List Token :=
  if negative then [.minus, .integer (Int64.ofNat (Text.toNat digits))]
  else [.integer (Int64.ofNat (Text.toNat digits))]

/-- The tokens of a step. -/
def tokens : Accessor → List Token
  | field name => [.dot, .name name]
  | index negative digits => .leftBracket :: (positionTokens negative digits ++ [.rightBracket])

end Accessor

/-- Several steps, one after the other. -/
abbrev Path := List Accessor

namespace Path

/-- The path as it is written. -/
def text (path : Path) : Text := path.flatMap Accessor.text

/-- Whether all steps are valid. -/
def isValid (path : Path) : Bool := path.all Accessor.isValid

/-- Where the path leads from a value. -/
def follow (path : Path) (v : Value) : Except EvalError Value :=
  path.foldlM (fun v accessor => accessor.apply v) v

/-- The expression of the path from an object. -/
def expr (path : Path) (object : Expr) : Expr :=
  path.foldl (fun e accessor => accessor.expr e) object

/-- The tokens of the path. -/
def tokens (path : Path) : List Token := path.flatMap Accessor.tokens

lemma text_cons (accessor : Accessor) (path : Path) :
    text (accessor :: path) = accessor.text ++ text path :=
  List.flatMap_cons

/-! ## The expression of a path -/

/-- The number of a position is what its expression says. -/
lemma eval_positionExpr (b : Bindings) (negative : Bool) {digits : Text}
    (h : Text.toNat digits < Nat.pow 2 63) :
    (Accessor.positionExpr negative digits).eval b =
      .ok (.integer (Accessor.position negative digits)) := by
  cases negative with
  | false => rfl
  | true =>
      have hn : (Int64.ofNat (Text.toNat digits)).toInt = Text.toNat digits :=
        Int64.toInt_ofNat_of_lt h
      have hlt : Text.toNat digits < 9223372036854775808 := h
      have hfits : Eval.fitted? (-(Text.toNat digits : Int)) =
          some (.integer (Int64.ofInt (-(Text.toNat digits : Int)))) := by
        rw [Eval.fitted?, if_pos]
        simp only [Int64.toInt_minValue, Int64.toInt_maxValue]
        omega
      change Eval.unary .negate (.integer (Int64.ofNat (Text.toNat digits))) = _
      rw [Eval.unary, hn, hfits]
      rfl

/-- The expression of a step means the step. -/
lemma eval_accessor (b : Bindings) {accessor : Accessor} (h : accessor.isValid = true)
    (object : Expr) : (accessor.expr object).eval b = (object.eval b).bind accessor.apply := by
  cases accessor with
  | field name => rfl
  | index negative digits =>
      simp only [Accessor.isValid, Bool.and_eq_true, decide_eq_true_eq] at h
      rw [Accessor.expr, Expr.eval, eval_positionExpr b negative h.2]
      rfl

/-- The expression of a path means the path. -/
theorem eval_expr (b : Bindings) {path : Path} (h : path.isValid = true) (object : Expr) :
    (path.expr object).eval b = (object.eval b).bind path.follow := by
  induction path generalizing object with
  | nil => rcases hv : object.eval b with e | v <;> simp [expr, hv] <;> rfl
  | cons accessor path ih =>
      rw [isValid, List.all_cons, Bool.and_eq_true] at h
      change (expr path (accessor.expr object)).eval b = _
      rw [ih h.2, eval_accessor b h.1]
      rcases object.eval b with e | v
      · rfl
      · rfl

/-! ## Reading a path -/

section reading

open Lexed Grammar

lemma tokens_cons (accessor : Accessor) (path : Path) :
    tokens (accessor :: path) = accessor.tokens ++ tokens path :=
  List.flatMap_cons

/-- The tokens of a position stand for its expression. -/
lemma derives_positionExpr (negative : Bool) (digits : Text) :
    Derives .or (Accessor.positionTokens negative digits)
      (Accessor.positionExpr negative digits) := by
  have hinteger (n : Int64) : Derives .unary [.integer n] (.integer n) :=
    .pass nofun (.pass nofun (.atom rfl))
  cases negative with
  | false => exact (hinteger _).of_unary
  | true => exact (Derives.unary rfl (hinteger _)).of_unary

/-- The tokens of a path behind an object stand for the expression of the path. -/
theorem derives_expr {ts : List Token} {object : Expr} (h : Derives .access ts object)
    (path : Path) : Derives .access (ts ++ path.tokens) (path.expr object) := by
  induction path generalizing ts object with
  | nil =>
      rw [tokens, List.flatMap_nil, List.append_nil]
      exact h
  | cons accessor path ih =>
      rw [tokens_cons, ← List.append_assoc]
      cases accessor with
      | field name => exact ih (.field h)
      | index negative digits => exact ih (.index h (derives_positionExpr negative digits))

/-- A character that a path begins with, or that ends a position, is part of no name or number. -/
lemma head?_text {path : Path} {c : Char} (h : c ∈ path.text.head?) : c = '.' ∨ c = '[' := by
  rcases path with _ | ⟨accessor, path⟩
  · cases h
  · rw [text_cons] at h
    rcases accessor with name | ⟨negative, digits⟩ <;>
      simp only [Accessor.text, List.cons_append, List.head?_cons, Option.mem_some] at h <;>
      simp [← h]

/-- The token of an identifier is a name. -/
lemma wordToken_of_isIdentifier {s : Text} (h : isIdentifier s = true) :
    wordToken s = .name s := by
  rw [isIdentifier, Bool.and_eq_true, Option.isNone_iff_eq_none] at h
  rw [wordToken, h.2]
  rfl

/-- An identifier in front of a path is one token. -/
lemma begins_identifier {name : Text} (h : isIdentifier name = true) (path : Path) :
    Begins (name ++ path.text) (.name name) path.text := by
  rw [← wordToken_of_isIdentifier h]
  refine begins_word (Bool.and_eq_true .. ▸ h).1 fun c hc => ?_
  rcases head?_text hc with rfl | rfl <;> decide

/-- A position has its tokens, up to the closing bracket. -/
lemma lexes_position {negative : Bool} {digits s : Text} {ts : List Token}
    (h : (Accessor.index negative digits).isValid = true) (hrest : ∀ start, Lexes start s ts)
    (start : Nat) :
    Lexes start (Accessor.literal negative digits ++ ']' :: s)
      (Accessor.positionTokens negative digits ++ .rightBracket :: ts) := by
  simp only [Accessor.isValid, Bool.and_eq_true, Bool.not_eq_true', List.isEmpty_eq_false_iff,
    decide_eq_true_eq] at h
  have hdigits : Begins (digits ++ ']' :: s) _ (']' :: s) :=
    begins_integer h.1.1 h.1.2 h.2 (by rintro c ⟨⟩; decide)
  have hbracket : Begins (']' :: s) .rightBracket s := begins_of_symbol? (by decide) rfl
  have hminus : Begins ('-' :: (digits ++ ']' :: s)) .minus _ := begins_of_symbol? (by decide) rfl
  cases negative with
  | false => exact .of_begins hdigits (.of_begins hbracket hrest) start
  | true => exact .of_begins hminus (.of_begins hdigits (.of_begins hbracket hrest)) start

/-- A path is divided into its tokens. -/
theorem lexes_text {path : Path} (h : path.isValid = true) (start : Nat) :
    Lexes start path.text path.tokens := by
  induction path generalizing start with
  | nil => exact lexes_nil start
  | cons accessor path ih =>
      rw [isValid, List.all_cons, Bool.and_eq_true] at h
      rw [text_cons, tokens_cons]
      cases accessor with
      | field name =>
          have hdot : Begins ('.' :: (name ++ text path)) .dot _ :=
            begins_of_symbol? (by decide) rfl
          exact .of_begins hdot (.of_begins (begins_identifier h.1 path) (ih h.2)) start
      | index negative digits =>
          have hbracket : Begins ('[' :: (Accessor.literal negative digits ++ ']' :: text path))
              .leftBracket _ := begins_of_symbol? (by decide) rfl
          rw [Accessor.text, Accessor.tokens, List.cons_append, List.cons_append, List.append_assoc,
            List.append_assoc, List.singleton_append, List.singleton_append]
          exact .of_begins hbracket (lexes_position h.1 (ih h.2)) start

/-- An identifier with a path behind it is read as the accesses to that name. -/
theorem parse_text {name : Text} {path : Path} (hname : isIdentifier name = true)
    (h : path.isValid = true) : Expr.parse (name ++ path.text) = .ok (path.expr (.ref name)) := by
  have hatom : Derives .access [.name name] (.ref name) := .pass nofun (.atom rfl)
  have hphrase : Derives .unary (.name name :: path.tokens) (path.expr (.ref name)) :=
    .pass nofun (derives_expr hatom path)
  have hlexes : Lexes 0 (name ++ path.text) (.name name :: path.tokens) :=
    .of_begins (begins_identifier hname path) (lexes_text h) 0
  exact parse_eq_ok_iff.2 ⟨_, hlexes, hphrase.of_unary⟩

/-- An identifier is an expression. -/
lemma parse_name {name : Text} (hname : isIdentifier name = true) :
    Expr.parse name = .ok (.ref name) := by
  have h : Expr.parse (name ++ text []) = .ok (expr [] (.ref name)) := parse_text hname rfl
  rw [text, List.flatMap_nil, List.append_nil] at h
  exact h

end reading

end Path

/-- **A path behind a name leads on from its value.** -/
theorem Bindings.eval_path (b : Bindings) {name : Text} {path : Path}
    (hname : isIdentifier name = true) (h : path.isValid = true) :
    b.eval (name ++ path.text) = path.follow (b.value name) := by
  rw [Bindings.eval, Path.parse_text hname h]
  exact Path.eval_expr b h (.ref name)

/-- An identifier is evaluated to what the name stands for. -/
lemma Bindings.eval_name (b : Bindings) {name : Text} (hname : isIdentifier name = true) :
    b.eval name = .ok (b.value name) := by
  rw [Bindings.eval, Path.parse_name hname]
  rfl

end DynamicSql
