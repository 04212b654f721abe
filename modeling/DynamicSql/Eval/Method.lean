import DynamicSql.Eval.Operator
import DynamicSql.Pattern
import DynamicSql.Text.Case

/-!
# Methods

The methods of strings, arrays and objects. Size and emptiness may be asked of a value of any
type, and only then does the type matter; every other method belongs to its types.
-/

namespace DynamicSql.Eval

/-- A method of the language, by its name. -/
inductive Method where
  /-- `size()` or `length()`. -/
  | size
  /-- `isEmpty()`. -/
  | isEmpty
  /-- `trim()`. -/
  | trim
  /-- `toUpperCase()`. -/
  | toUpperCase
  /-- `toLowerCase()`. -/
  | toLowerCase
  /-- `startsWith(s)`. -/
  | startsWith
  /-- `endsWith(s)`. -/
  | endsWith
  /-- `contains(x)`. -/
  | contains
  /-- `containsKey(s)`. -/
  | containsKey
  /-- `matches(pattern)`. -/
  | matchesPattern
  deriving DecidableEq

/-- The names of the methods. -/
def methodNames : List (Text × Method) := [
  ("size".toList, .size), ("length".toList, .size), ("isEmpty".toList, .isEmpty),
  ("trim".toList, .trim), ("toUpperCase".toList, .toUpperCase),
  ("toLowerCase".toList, .toLowerCase), ("startsWith".toList, .startsWith),
  ("endsWith".toList, .endsWith), ("contains".toList, .contains),
  ("containsKey".toList, .containsKey), ("matches".toList, .matchesPattern)]

/-- A call without arguments. -/
def noArguments (name : Text) (arguments : List Value) (result : Except EvalError Value) :
    Except EvalError Value :=
  match arguments with
  | [] => result
  | _ => .error (.type (.arity name 0 arguments.length))

/-- A call with one argument. -/
def oneArgument (name : Text) (arguments : List Value)
    (result : Value → Except EvalError Value) : Except EvalError Value :=
  match arguments with
  | [a] => result a
  | _ => .error (.type (.arity name 1 arguments.length))

/-- A call with one argument that has to be a string. -/
def stringArgument (name : Text) (arguments : List Value)
    (result : Text → Except EvalError Value) : Except EvalError Value :=
  oneArgument name arguments fun
    | .string s => result s
    | a => .error (.type (.stringArgument name a.typeName))

/-- A count as a value. -/
def count (n : Nat) : Value := .integer (Int64.ofNat n)

/-- How many elements, fields or characters a value has, if it can have any. -/
def size? : Value → Option Nat
  | .array items => some items.length
  | .object fields => some fields.length
  | .string s => some s.length
  | _ => none

/-- Whether the pattern described by a text matches a string from start to end. -/
def matchesPattern (s source : Text) : Except EvalError Value :=
  match Pattern.compile? (Pattern.anchored source) with
  | some pattern => .ok (.boolean (pattern.isMatch s))
  | none => .error (.type .invalidPattern)

/-- The value of a call. -/
def call (name : Text) (object : Value) (arguments : List Value) : Except EvalError Value :=
  let unknown : Except EvalError Value := .error (.unknownMethod name object.typeName)
  match Table.lookup name methodNames, object with
  | some .size, object =>
    noArguments name arguments <|
      match size? object with
      | some n => .ok (count n)
      | none => unknown
  | some .isEmpty, object =>
    noArguments name arguments <|
      match size? object with
      | some n => .ok (.boolean (n == 0))
      | none => unknown
  | some .trim, .string s => noArguments name arguments (.ok (.string (Text.trim s)))
  | some .toUpperCase, .string s => noArguments name arguments (.ok (.string (Text.toUpper s)))
  | some .toLowerCase, .string s => noArguments name arguments (.ok (.string (Text.toLower s)))
  | some .startsWith, .string s =>
    stringArgument name arguments fun part => .ok (.boolean (part.isPrefixOf s))
  | some .endsWith, .string s =>
    stringArgument name arguments fun part => .ok (.boolean (part.isSuffixOf s))
  | some .contains, .string s =>
    stringArgument name arguments fun part => .ok (.boolean (Text.occurs part s))
  | some .contains, .array items =>
    oneArgument name arguments fun a => .ok (.boolean (items.any (equal · a)))
  | some .containsKey, .object fields =>
    stringArgument name arguments fun key => .ok (.boolean (Value.field? fields key).isSome)
  | some .matchesPattern, .string s => stringArgument name arguments (matchesPattern s)
  | _, _ => unknown

end DynamicSql.Eval
