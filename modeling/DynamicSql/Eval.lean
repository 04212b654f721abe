import DynamicSql.Bindings
import DynamicSql.Eval.Method

/-!
# Evaluation

The value of an expression under given bindings. Operands and arguments are evaluated from left
to right and the first error is the error of the whole; `and` and `or` evaluate their right
side only if the left one does not decide.

An expression written as text is parsed first. Three shapes of result are asked for: a value, a
truth value, and the entries of a collection.
-/

namespace DynamicSql

namespace Expr

mutual

/-- The value of an expression. -/
def eval (b : Bindings) : Expr → Except EvalError Value
  | .float x => .ok (.float x)
  | .integer n => .ok (.integer n)
  | .string s => .ok (.string s)
  | .boolean t => .ok (.boolean t)
  | .null => .ok .null
  | .ref name => .ok (b.value name)
  | .field object name => (object.eval b).bind (Eval.field name)
  | .index object position =>
    (object.eval b).bind fun o => (position.eval b).bind fun i => Eval.index o i
  | .unary op operand => (operand.eval b).bind (Eval.unary op)
  | .binary .and left right =>
    (left.eval b).bind fun l =>
      if l.truthy then (right.eval b).bind fun r => .ok (.boolean r.truthy)
      else .ok (.boolean false)
  | .binary .or left right =>
    (left.eval b).bind fun l =>
      if l.truthy then .ok (.boolean true)
      else (right.eval b).bind fun r => .ok (.boolean r.truthy)
  | .binary op left right =>
    (left.eval b).bind fun l => (right.eval b).bind fun r => Eval.binary op l r
  | .call object method arguments =>
    (object.eval b).bind fun o =>
      (evalAll b arguments).bind fun values => Eval.call method o values

/-- The values of several expressions. -/
def evalAll (b : Bindings) : List Expr → Except EvalError (List Value)
  | [] => .ok []
  | e :: rest => (e.eval b).bind fun v => (evalAll b rest).map (v :: ·)

end

end Expr

namespace Bindings

/-- The value of an expression given as text. -/
def eval (b : Bindings) (expression : Text) : Except EvalError Value :=
  match Expr.parse expression with
  | .ok e => e.eval b
  | .error cause => .error (.unparsable expression cause)

/-- The truth of a condition. -/
def evalTruth (b : Bindings) (expression : Text) : Except EvalError Bool :=
  (b.eval expression).map Value.truthy

end Bindings

/-- One entry of a collection: its position or name, and its value. -/
structure Entry where
  /-- The position in an array, or the name in an object. -/
  index : Value
  /-- What stands there. -/
  item : Value

namespace Entry

/-- The entries of an array whose first element has the given position. -/
def ofItems (position : Nat) : List Value → List Entry
  | [] => []
  | item :: rest => ⟨Eval.count position, item⟩ :: ofItems (position + 1) rest

/-- The entries of an object. -/
def ofFields (fields : List (Text × Value)) : List Entry :=
  fields.map fun (name, value) => ⟨.string name, value⟩

end Entry

/-- The entries of a collection; null and scalars have none. -/
def Bindings.evalEntries (b : Bindings) (expression : Text) : Except EvalError (List Entry) :=
  (b.eval expression).bind fun
    | .null => .error (.nullIterable expression)
    | .array items => .ok (Entry.ofItems 0 items)
    | .object fields => .ok (Entry.ofFields fields)
    | v => .error (.notIterable expression v)

end DynamicSql
