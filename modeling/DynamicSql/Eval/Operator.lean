import DynamicSql.Eval.Error

/-!
# Operators

Whole numbers are added, subtracted, multiplied and divided exactly: a result that does not fit
64 bits is an error, and only a quotient that is not whole becomes a floating-point number. Two
floats follow floating-point arithmetic. A whole number and a float are combined as decimals,
and a whole result becomes a whole number again; where decimals do not reach, floating-point
arithmetic takes over.

Equality treats both kinds of numbers as one and compares everything else by structure.
-/

namespace DynamicSql.Eval

/-! ## Equality and order -/

/-- Whether two values are equal for `==`. -/
def equal : Value → Value → Bool
  | .integer a, .integer b => a == b
  | .integer a, .float b => Number.ofInt64 a == b
  | .float a, .integer b => a == Number.ofInt64 b
  | a, b => a == b

/-- Whether an order between two values satisfies a comparison. -/
def satisfies (op : BinaryOperator) (order : Ordering) : Bool :=
  match op with
  | .lessThan => order == .lt
  | .greaterThan => order == .gt
  | .lessEqual => order != .gt
  | .greaterEqual => order != .lt
  | _ => false

/-- The order of two floating-point numbers, unless one is not a number. -/
def orderFloats? (a b : Float) : Option Ordering :=
  if a < b then some .lt else if b < a then some .gt else if a == b then some .eq else none

/-- The order of two values that can be compared: none inside if one is null or not a number. -/
def order? : Value → Value → Except TypeFault (Option Ordering)
  | .null, _ | _, .null => .ok none
  | .integer a, .integer b => .ok (some (compareOfLessAndEq a.toInt b.toInt))
  | .integer a, .float b => .ok (orderFloats? (Number.ofInt64 a) b)
  | .float a, .integer b => .ok (orderFloats? a (Number.ofInt64 b))
  | .float a, .float b => .ok (orderFloats? a b)
  | .string a, .string b => .ok (some (compareOfLessAndEq a b))
  | a, b => .error (.compare a.typeName b.typeName)

/-- The truth of a comparison. -/
def compare (op : BinaryOperator) (a b : Value) : Except EvalError Value :=
  match order? a b with
  | .ok (some order) => .ok (.boolean (satisfies op order))
  | .ok none => .ok (.boolean false)
  | .error fault => .error (.type fault)

/-! ## Arithmetic -/

/-- The value of a whole number that fits 64 bits. -/
def fitted? (n : Int) : Option Value :=
  if Int64.minValue.toInt ≤ n ∧ n ≤ Int64.maxValue.toInt then some (.integer (Int64.ofInt n))
  else none

/-- The exact result of an operation on whole numbers, if it is whole and the operation is one of
arithmetic. A remainder has the sign of what is divided, and there is none where the quotient
does not fit. -/
def wholeResult? (op : BinaryOperator) (a b : Int) : Option Value :=
  match op with
  | .add => fitted? (a + b)
  | .subtract => fitted? (a - b)
  | .multiply => fitted? (a * b)
  | .divide => fitted? (a.tdiv b)
  | .modulo => if (fitted? (a.tdiv b)).isSome then fitted? (a.tmod b) else none
  | _ => none

/-- Arithmetic on whole numbers. -/
def integers (op : BinaryOperator) (a b : Int64) : Except EvalError Value :=
  if (op = .divide ∨ op = .modulo) ∧ b = 0 then .error .divisionByZero
  else if op = .divide ∧ a.toInt.tmod b.toInt ≠ 0 then
    .ok (.float (Number.ofInt64 a / Number.ofInt64 b))
  else
    match wholeResult? op a.toInt b.toInt with
    | some v => .ok v
    | none => .error (.type (.overflow a op b))

/-- Arithmetic on floating-point numbers. -/
def floats (op : BinaryOperator) (a b : Float) : Value :=
  match op with
  | .add => .float (a + b)
  | .subtract => .float (a - b)
  | .multiply => .float (a * b)
  | .divide => .float (a / b)
  | .modulo => .float (Number.remainder a b)
  | _ => .null

/-- Arithmetic on decimals. -/
def decimals? (op : BinaryOperator) (a b : Number.Decimal) : Option Number.Decimal :=
  match op with
  | .add => a.add? b
  | .subtract => a.sub? b
  | .multiply => a.mul? b
  | .divide => a.div? b
  | .modulo => a.rem? b
  | _ => none

/-- The value of a decimal: a whole number where it is one that fits. -/
def ofDecimal (d : Number.Decimal) : Value :=
  match d.toInt?.bind fitted? with
  | some v => v
  | none => .float d.toFloat

/-- Arithmetic on a whole number and a float, both given as floats. -/
def mixed (op : BinaryOperator) (a b : Float) : Value :=
  let result := do
    let a ← Number.Decimal.ofFloat? a
    let b ← Number.Decimal.ofFloat? b
    decimals? op a b
  match result with
  | some d => ofDecimal d
  | none => floats op a b

/-- Arithmetic on two values. -/
def arithmetic (op : BinaryOperator) : Value → Value → Except EvalError Value
  | .integer a, .integer b => integers op a b
  | .float a, .float b => .ok (floats op a b)
  | .integer a, .float b => .ok (mixed op (Number.ofInt64 a) b)
  | .float a, .integer b => .ok (mixed op a (Number.ofInt64 b))
  | a, b => .error (.type (.operands op a.typeName b.typeName))

/-! ## All operators -/

/-- The sum of two values: their texts joined if one is a string. -/
def add : Value → Value → Except EvalError Value
  | .string a, b => .ok (.string (a ++ b.display))
  | a, .string b => .ok (.string (a.display ++ b))
  | a, b => arithmetic .add a b

/-- The value of an operator between two values. `and` and `or` look at their truth. -/
def binary (op : BinaryOperator) (a b : Value) : Except EvalError Value :=
  match op with
  | .equal => .ok (.boolean (equal a b))
  | .notEqual => .ok (.boolean (!equal a b))
  | .lessThan | .greaterThan | .lessEqual | .greaterEqual => compare op a b
  | .add => add a b
  | .subtract | .multiply | .divide | .modulo => arithmetic op a b
  | .and => .ok (.boolean (a.truthy && b.truthy))
  | .or => .ok (.boolean (a.truthy || b.truthy))

/-- The value of an operator before a value. -/
def unary : UnaryOperator → Value → Except EvalError Value
  | .not, a => .ok (.boolean !a.truthy)
  | .negate, .integer n =>
    match fitted? (-n.toInt) with
    | some v => .ok v
    | none => .error (.type (.negateLeast n))
  | .negate, .float x => .ok (.float (-x))
  | .negate, a => .error (.type (.negateType a.typeName))

/-! ## Access -/

/-- A field of an object, null if it has none; null has every field. -/
def field (name : Text) : Value → Except EvalError Value
  | .object fields => .ok ((Value.field? fields name).getD .null)
  | .null => .ok .null
  | a => .error (.type (.field name a.typeName))

/-- The element of a list at a position, null outside. -/
def element (items : List Value) (position : Int) : Value :=
  if 0 ≤ position then (items[position.toNat]?).getD .null else .null

/-- The element or field at an index; null has every index. -/
def index : Value → Value → Except EvalError Value
  | .null, _ => .ok .null
  | .object fields, .string key => .ok ((Value.field? fields key).getD .null)
  | .object fields, .integer n => .ok ((Value.field? fields (Text.ofInt n.toInt)).getD .null)
  | .array items, .integer n => .ok (element items n.toInt)
  | .array _, .string key => .error (.type (.stringIndex key))
  | a, i => .error (.type (.index a.typeName i.typeName))

end DynamicSql.Eval
