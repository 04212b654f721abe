import DynamicSql.Eval
import DynamicSql.Node
import DynamicSql.Placeholder

/-!
# Bound SQL

The outcome of a template: SQL text in which the placeholders are replaced by the markers of a
database driver, and for each marker, in the order of the text, what the placeholder said and
the value to pass. The error of a text is that of its first placeholder at fault.
-/

namespace DynamicSql

/-- How a driver marks the parameters in SQL text. -/
inductive MarkerStyle where
  /-- `?` -/
  | question
  /-- `$1`, `$2`, … -/
  | dollar
  /-- `:1`, `:2`, … -/
  | colon
  /-- `@p1`, `@p2`, … -/
  | atP
  deriving DecidableEq

namespace MarkerStyle

/-- The marker of a parameter; the first one has position 1. -/
def marker (style : MarkerStyle) (position : Nat) : Text :=
  match style with
  | question => ['?']
  | dollar => '$' :: Text.ofNat position
  | colon => ':' :: Text.ofNat position
  | atP => '@' :: 'p' :: Text.ofNat position

/-- The name of a style in configurations. -/
def name : MarkerStyle → String
  | question => "question"
  | dollar => "dollar"
  | colon => "colon"
  | atP => "at_p"

/-- The style with a name. -/
def ofName? (s : Text) : Option MarkerStyle :=
  [question, dollar, colon, atP].find? fun style => style.name.toList == s

end MarkerStyle

/-- Why a template gives no SQL for a parameter. -/
inductive SqlError where
  /-- An expression has no value. -/
  | eval (e : EvalError)
  /-- The content of a placeholder cannot be read. -/
  | placeholder (content : Text) (fault : PlaceholderFault)

/-- The text of the error. -/
def SqlError.message : SqlError → String
  | eval e => e.message
  | placeholder content fault =>
    let shown := String.ofList (Delimiters.placeholder.wrap content)
    s!"Invalid parameter mapping '{shown}': {fault.message}"

/-- SQL text with the parameters it needs. -/
structure BoundSql where
  /-- The text, with markers. -/
  sql : Text
  /-- What the placeholders said, one for each marker. -/
  placeholders : List Placeholder
  /-- The values to pass, one for each marker. -/
  parameters : List Value
  /-- All bindings at the end. -/
  additional : Bindings

namespace Placeholder

/-- The value of a placeholder. A scalar parameter answers every property whose leading name is
not bound. -/
def resolve (p : Placeholder) (b : Bindings) : Except EvalError Value :=
  if b.contains p.rootName then b.eval p.property
  else if b.parameter.isScalar then .ok b.parameter
  else b.eval p.property

/-- What the content of a placeholder says, and its value. -/
def bound (b : Bindings) (content : Text) : Except SqlError (Placeholder × Value) :=
  match parse content with
  | .error fault => .error (.placeholder content fault)
  | .ok p =>
    match p.resolve b with
    | .error e => .error (.eval e)
    | .ok v => .ok (p, v)

end Placeholder

namespace BoundSql

/-- The text of pieces with markers for the placeholders, and what these are; `count` of them
stand before. -/
def assemblePieces (b : Bindings) (style : MarkerStyle) (count : Nat) :
    List Segment → Except SqlError (Text × List (Placeholder × Value))
  | [] => .ok ([], [])
  | .literal s :: rest =>
    (assemblePieces b style count rest).map fun (sql, bound) => (s ++ sql, bound)
  | .token content :: rest =>
    (Placeholder.bound b content).bind fun p =>
      (assemblePieces b style (count + 1) rest).map fun (sql, bound) =>
        (style.marker (count + 1) ++ sql, p :: bound)

/-- Replaces the placeholders of a text and finds their values. -/
def assemble (sql : Text) (b : Bindings) (style : MarkerStyle) : Except SqlError BoundSql :=
  (assemblePieces b style 0 (Delimiters.placeholder.segments sql)).map fun (sql, bound) =>
    { sql, placeholders := bound.map (·.1), parameters := bound.map (·.2), additional := b }

end BoundSql

end DynamicSql
