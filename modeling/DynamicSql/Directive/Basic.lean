import DynamicSql.Node.Loop

/-!
# Directives

Directives are the written form of a template: what a program or a file says, before properties
are filled in and anything is checked.
-/

namespace DynamicSql

/-- What a `trim` directive adds to its body; overrides are separated by bars. -/
structure Trimming where
  /-- What is put before the body. -/
  lead : Option Text := none
  /-- What is put after the body. -/
  tail : Option Text := none
  /-- What is removed from the start of the body. -/
  leadOverrides : Option Text := none
  /-- What is removed from the end of the body. -/
  tailOverrides : Option Text := none
  deriving DecidableEq

/-- One element of a written template. -/
inductive Directive where
  /-- SQL text. -/
  | text (content : Text)
  /-- A body with a test. -/
  | guard (test : Text) (body : List Directive)
  /-- Branches with tests, and what stands for none of them. -/
  | choose (branches : List (Text × List Directive)) (otherwise : Option (List Directive))
  /-- A body for each entry of a collection. -/
  | loop (loop : Loop) (body : List Directive)
  /-- A body whose ends are trimmed. -/
  | trim (trimming : Trimming) (body : List Directive)
  /-- A `WHERE` clause. -/
  | whereClause (body : List Directive)
  /-- A `SET` clause. -/
  | setClause (body : List Directive)
  /-- A name for the value of an expression. -/
  | bind (name value : Text)

end DynamicSql
