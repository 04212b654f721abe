import DynamicSql.Expr.Parser
import DynamicSql.Value

/-!
# Errors of evaluation

Every cause of a failed evaluation is one constructor; `EvalError.message` gives the text.
-/

namespace DynamicSql

/-- An operation that the types or sizes of its operands do not allow. -/
inductive TypeFault where
  /-- The negation of a value of that type. -/
  | negateType (type : String)
  /-- The negation of the least whole number. -/
  | negateLeast (n : Int64)
  /-- A field of a value that is no object. -/
  | field (name : Text) (type : String)
  /-- A string as the index of an array. -/
  | stringIndex (key : Text)
  /-- An index of one type into a value of another. -/
  | index (object index : String)
  /-- The order of values of two types. -/
  | compare (left right : String)
  /-- A whole number that does not fit. -/
  | overflow (left : Int64) (op : BinaryOperator) (right : Int64)
  /-- Arithmetic on values of two types. -/
  | operands (op : BinaryOperator) (left right : String)
  /-- A call with the wrong number of arguments. -/
  | arity (method : Text) (expected given : Nat)
  /-- An argument of that type where a string is needed. -/
  | stringArgument (method : Text) (type : String)
  /-- A text that describes no pattern. -/
  | invalidPattern
  deriving DecidableEq

/-- Why an expression has no value. -/
inductive EvalError where
  /-- The text is no expression. -/
  | unparsable (expression : Text) (cause : ParseError)
  /-- A collection is null. -/
  | nullIterable (expression : Text)
  /-- A collection is a scalar. -/
  | notIterable (expression : Text) (value : Value)
  /-- An operation does not apply. -/
  | type (fault : TypeFault)
  /-- A value of the type has no such method. -/
  | unknownMethod (method : Text) (type : String)
  /-- A division by the whole number zero. -/
  | divisionByZero
  /-- A value to be spliced into SQL that the filter does not accept. -/
  | rejected (value filter : Text)

/-- The text of the fault. -/
def TypeFault.message : TypeFault → String
  | negateType t => s!"Cannot negate {t}"
  | negateLeast n => s!"Cannot negate {n.toInt}"
  | field name t => s!"Cannot read field '{String.ofList name}' of {t}"
  | stringIndex key =>
    s!"Cannot use string key '{String.ofList key}' on array; use integer index instead"
  | index o i => s!"Cannot index {o} with {i}"
  | compare l r => s!"Cannot compare {l} with {r}"
  | overflow l op r => s!"Integer overflow in {l.toInt} {op.name} {r.toInt}"
  | operands op l r => s!"Cannot apply {op.name} to {l} and {r}"
  | arity method expected given =>
    s!"{String.ofList method}() takes {expected} argument(s), {given} given"
  | stringArgument method t => s!"{String.ofList method}() expects a string argument, got {t}"
  | invalidPattern => "invalid regex"

/-- The text of the error. -/
def EvalError.message : EvalError → String
  | unparsable e cause => s!"Error parsing expression '{String.ofList e}': {cause.message}"
  | nullIterable e => s!"The expression '{String.ofList e}' evaluated to a null value."
  | notIterable e v =>
    let shown := String.ofList v.display
    s!"Error evaluating expression '{String.ofList e}'. " ++
      s!"Return value ({shown}) was not iterable."
  | type .invalidPattern => TypeFault.invalidPattern.message
  | type fault => s!"Type error: {fault.message}"
  | unknownMethod method t => s!"Unknown method '{String.ofList method}' on {t}"
  | divisionByZero => "Division by zero"
  | rejected v filter =>
    s!"Invalid input '{String.ofList v}'. Please conform to regex {String.ofList filter}"

end DynamicSql
