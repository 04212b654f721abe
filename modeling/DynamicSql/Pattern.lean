import DynamicSql.Pattern.Program
import DynamicSql.Pattern.Reader
import DynamicSql.Pattern.Room

/-!
# Compiled patterns

A pattern is compiled once from its text and then searched for in other texts. `find?` gives the
leftmost match, and of those that start there the preferred one; `matchesWhole` asks whether
this very match is the whole text.
-/

namespace DynamicSql

/-- A pattern ready to be searched for. -/
structure Pattern where
  /-- The text that describes it. -/
  source : Text
  /-- The first instruction. -/
  start : Nat
  /-- The instructions. -/
  program : Pattern.Program

namespace Pattern

/-- The pattern that a text describes, if it describes one and that is not too large. -/
def compile? (source : Text) : Option Pattern := do
  let tree ← (← Syntax.ofText? source).tree?
  if tree.fits then
    let (start, program) := tree.program
    return ⟨source, start, program⟩
  else none

/-- Where the leftmost match starts and ends. -/
def find? (p : Pattern) (s : Text) : Option (Nat × Nat) := findFrom? p.program p.start ⟨0, [], s⟩

/-- Whether the pattern matches anywhere. -/
def isMatch (p : Pattern) (s : Text) : Bool := (p.find? s).isSome

/-- Whether the leftmost match is the whole text. -/
def matchesWhole (p : Pattern) (s : Text) : Bool := p.find? s == some (0, s.length)

/-- The description of a pattern between the start and the end of the text. -/
def anchored (source : Text) : Text := "^(?:".toList ++ source ++ ")$".toList

end Pattern

end DynamicSql
