import DynamicSql.Pattern.Syntax

/-!
# Searching for a pattern

A pattern is turned into a program: instructions that read a character, test a place, or branch
in order of preference. A search follows the branches in that order and never enters an
instruction twice at the same place, since what failed or was tried there before adds nothing.
So the first way to accept is the preferred match, and every search ends.
-/

namespace DynamicSql.Pattern

/-- A step of a search. -/
inductive Instruction where
  /-- Read a character of the set, then go on. -/
  | read (set : CharSet) (next : Nat)
  /-- Go on if the place is right. -/
  | test (place : Place) (next : Nat)
  /-- Go on with the first, or else with the second. -/
  | branch (first second : Nat)
  /-- The pattern has been matched. -/
  | accept

/-- Instructions, numbered from zero. -/
abbrev Program := Array Instruction

namespace Tree

/-- A branch that repeats or leaves, in the order of preference. -/
def loopBranch (greedy : Bool) (again out : Nat) : Instruction :=
  if greedy then .branch again out else .branch out again

/-- Adds to the program `count` nested options, each of which leads on to `out`. -/
def addOptions (add : Nat → Program → Nat × Program) (greedy : Bool) (out : Nat) :
    Nat → Nat → Program → Nat × Program
  | 0, next, program => (next, program)
  | count + 1, next, program =>
    let (body, program) := add next program
    addOptions add greedy out count program.size (program.push (loopBranch greedy body out))

/-- Adds to the program `count` copies, one after the other. -/
def addCopies (add : Nat → Program → Nat × Program) :
    Nat → Nat → Program → Nat × Program
  | 0, next, program => (next, program)
  | count + 1, next, program =>
    let (start, program) := add next program
    addCopies add count start program

/-- Adds to the program the characters of a text, one after the other. -/
def addText : Text → Nat → Program → Nat × Program
  | [], next, program => (next, program)
  | c :: rest, next, program =>
    let (start, program) := addText rest next program
    (program.size, program.push (.read (.single c) start))

/-- Adds the instructions of a pattern that go on with `next`; gives the first of them. -/
def add : Tree → Nat → Program → Nat × Program
  | empty, next, program => (next, program)
  | literal text, next, program => addText text next program
  | set _ s, next, program => (program.size, program.push (.read s next))
  | place p, next, program => (program.size, program.push (.test p next))
  | capture _ a, next, program => a.add next program
  | concat a b, next, program =>
    let (start, program) := b.add next program
    a.add start program
  | either a b, next, program =>
    let (first, program) := a.add next program
    let (second, program) := b.add next program
    (program.size, program.push (.branch first second))
  | repetition least (some most) greedy a, next, program =>
    let (start, program) := addOptions a.add greedy next (most - least) next program
    addCopies a.add least start program
  | repetition least none greedy a, next, program =>
    let loop := program.size
    let (body, program) := a.add loop (program.push .accept)
    let program := program.setIfInBounds loop (loopBranch greedy body next)
    if least = 0 then
      if a.consumes then (loop, program)
      else (program.size, program.push (loopBranch greedy body next))
    else addCopies a.add (least - 1) body program

/-- The first instruction of a pattern and its program. -/
def program (tree : Tree) : Nat × Program := tree.add 0 #[.accept]

end Tree

/-! ## Places -/

/-- A place in a text. -/
structure Cursor where
  /-- The number of characters before the place. -/
  position : Nat
  /-- The characters before the place, from the last to the first. -/
  before : Text
  /-- The characters after the place. -/
  after : Text

/-- Whether the first of some characters, if there is one, belongs to a set. -/
def headIn (set : CharSet) : Text → Bool
  | [] => false
  | c :: _ => set.contains c.toNat

/-- The characters of words, of Unicode or of ASCII. -/
def wordSet (unicode : Bool) : CharSet := if unicode then Property.word else .asciiWord

/-- Whether a place is as it should be. -/
def Place.holds (place : Place) (cursor : Cursor) : Bool :=
  match place, cursor.before, cursor.after with
  | textStart, before, _ => before.isEmpty
  | textEnd, _, after => after.isEmpty
  | lineStart _, [], _ => true
  | lineStart false, c :: _, _ => c == '\n'
  | lineStart true, '\n' :: _, _ => true
  | lineStart true, '\r' :: _, after => after.head? != some '\n'
  | lineStart true, _, _ => false
  | lineEnd _, _, [] => true
  | lineEnd false, _, c :: _ => c == '\n'
  | lineEnd true, _, '\r' :: _ => true
  | lineEnd true, before, '\n' :: _ => before.head? != some '\r'
  | lineEnd true, _, _ => false
  | word edge unicode, before, after =>
    edge.judge (headIn (wordSet unicode) before) (headIn (wordSet unicode) after)

/-! ## Searching -/

/-- Follows the instructions on the stack, the topmost first, and gives the place where the first
of them accepts. `seen` marks each instruction at each place where it has been entered. -/
def explore (program : Program) (width : Nat) :
    Nat → Array Bool → List (Nat × Cursor) → Option Nat
  | 0, _, _ => none
  | _ + 1, _, [] => none
  | fuel + 1, seen, (pc, cursor) :: stack =>
    let key := pc * width + cursor.position
    if seen.getD key true then explore program width fuel seen stack
    else
      let seen := seen.setIfInBounds key true
      match program[pc]? with
      | none => explore program width fuel seen stack
      | some .accept => some cursor.position
      | some (.read set next) =>
        match cursor.after with
        | [] => explore program width fuel seen stack
        | c :: rest =>
          if set.contains c.toNat then
            explore program width fuel seen
              ((next, ⟨cursor.position + 1, c :: cursor.before, rest⟩) :: stack)
          else explore program width fuel seen stack
      | some (.test place next) =>
        if place.holds cursor then explore program width fuel seen ((next, cursor) :: stack)
        else explore program width fuel seen stack
      | some (.branch first second) =>
        explore program width fuel seen ((first, cursor) :: (second, cursor) :: stack)

/-- Where the preferred match that starts at a place ends. Every instruction is entered at most
once at each place and leaves at most two behind, which bounds the number of steps. -/
def matchEnd? (program : Program) (start : Nat) (cursor : Cursor) : Option Nat :=
  let width := cursor.position + cursor.after.length + 1
  let size := program.size * width
  explore program width (2 * size + 2) (Array.replicate size false) [(start, cursor)]

/-- The first and last place of the leftmost match at or after a place. -/
def findFrom? (program : Program) (start : Nat) : Cursor → Option (Nat × Nat)
  | ⟨position, before, after⟩ =>
    match matchEnd? program start ⟨position, before, after⟩ with
    | some stop => some (position, stop)
    | none =>
      match after with
      | [] => none
      | c :: rest => findFrom? program start ⟨position + 1, c :: before, rest⟩
termination_by cursor => cursor.after.length

end DynamicSql.Pattern
