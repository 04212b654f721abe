import DynamicSql.Text.Basic

/-!
# Expressions

The abstract syntax of the expression language in which tests, collections, bound values and the
contents of `#{…}` and `${…}` are written.
-/

namespace DynamicSql

/-- The operators that stand before their operand. -/
inductive UnaryOperator where
  /-- `not` or `!`. -/
  | not
  /-- `-`. -/
  | negate
  deriving DecidableEq

/-- The operators that stand between their operands. -/
inductive BinaryOperator where
  /-- `==` or `eq`. -/
  | equal
  /-- `!=` or `neq`. -/
  | notEqual
  /-- `<` or `lt`. -/
  | lessThan
  /-- `>` or `gt`. -/
  | greaterThan
  /-- `<=` or `lte`. -/
  | lessEqual
  /-- `>=` or `gte`. -/
  | greaterEqual
  /-- `+`. -/
  | add
  /-- `-`. -/
  | subtract
  /-- `*`. -/
  | multiply
  /-- `/`. -/
  | divide
  /-- `%`. -/
  | modulo
  /-- `and` or `&&`. -/
  | and
  /-- `or` or `||`. -/
  | or
  deriving DecidableEq

/-- The name of an operator in messages. -/
def BinaryOperator.name : BinaryOperator → String
  | equal => "Equal"
  | notEqual => "NotEqual"
  | lessThan => "LessThan"
  | greaterThan => "GreaterThan"
  | lessEqual => "LessEqual"
  | greaterEqual => "GreaterEqual"
  | add => "Add"
  | subtract => "Subtract"
  | multiply => "Multiply"
  | divide => "Divide"
  | modulo => "Modulo"
  | and => "And"
  | or => "Or"

/-- An expression. -/
inductive Expr where
  /-- A number with a point. -/
  | float (x : Float)
  /-- A whole number. -/
  | integer (n : Int64)
  /-- A string literal. -/
  | string (s : Text)
  /-- `true` or `false`. -/
  | boolean (b : Bool)
  /-- `null`. -/
  | null
  /-- A name, looked up among the bindings. -/
  | ref (name : Text)
  /-- `object.name`. -/
  | field (object : Expr) (name : Text)
  /-- `object[index]`. -/
  | index (object index : Expr)
  /-- An operator before its operand. -/
  | unary (op : UnaryOperator) (operand : Expr)
  /-- An operator between its operands. -/
  | binary (op : BinaryOperator) (left right : Expr)
  /-- `object.method(arguments)`. -/
  | call (object : Expr) (method : Text) (arguments : List Expr)

instance : Inhabited Expr := ⟨.null⟩

end DynamicSql
