import DynamicSql.Pattern.Basic
import DynamicSql.Pattern.Utf8

/-!
# The room that a pattern takes

A pattern is refused if the automaton that reads it byte by byte, forwards or backwards, would
take more than ten mebibytes. Here that room is added up: so much for every state, and more for
the states that hold lists of steps or of branches.

The bytes of a set of characters are read by states that are shared where they lead on alike. What
has been made is looked for in a table with a fixed number of slots, where a later entry drives out
an earlier one of the same slot; so sharing is not perfect, and the room depends on the numbers
that states have.

Main definition: `Tree.fits`.
-/

namespace DynamicSql.Pattern

/-- What an automaton takes so far. -/
structure Room where
  /-- The number of states. -/
  states : Nat
  /-- The bytes that the lists of states take. -/
  lists : Nat

namespace Room

/-- The most bytes that an automaton may take. -/
def limit : Nat := 10 * 1024 * 1024

/-- All bytes: those of the states and those of their lists. -/
def bytes (room : Room) : Nat := 32 * room.states + room.lists

/-- Whether that is too much. -/
def isOver (room : Room) : Bool := limit < room.bytes

/-- With some more states that hold no list. -/
def plain (count : Nat) (room : Room) : Room := { room with states := room.states + count }

/-- With one more state that holds a list of steps. -/
def stepping (steps : Nat) (room : Room) : Room := ⟨room.states + 1, room.lists + 8 * steps⟩

/-- With one more state that holds a list of branches. -/
def branching (branches : Nat) (room : Room) : Room := ⟨room.states + 1, room.lists + 4 * branches⟩

/-- The room with a number of equal parts more; no more are added once it is too much. -/
def copies (add : Room → Room) : Nat → Room → Room
  | 0, room => room
  | count + 1, room => if room.isOver then room else copies add count (add room)

end Room

/-! ## Sharing states -/

/-- An automaton in the making, with the table of the states that may be shared. -/
structure Sharing where
  /-- What the automaton takes. -/
  room : Room
  /-- For each slot the last state put there: what it does, in numbers, and its own number. -/
  slots : Array (Option (List Nat × Nat))

namespace Sharing

/-- The slot of a list of numbers: each is mixed into the bits and multiplied on. -/
def slot (key : List Nat) (size : Nat) : Nat :=
  let mixed := key.foldl (fun (bits : UInt64) n => (bits ^^^ UInt64.ofNat n) * 1099511628211)
    14695981039346656037
  mixed.toNat % size

/-- The number of the state in a slot, if it does what the key says. -/
def find? (key : List Nat) (slot : Nat) (slots : Array (Option (List Nat × Nat))) : Option Nat :=
  match slots.getD slot none with
  | some (known, number) => if known = key then some number else none
  | none => none

/-- The number of a state that does what the key says: the one in the slot, or else a new one,
which `grow` makes room for. -/
def share (key : List Nat) (grow : Room → Room) : Sharing → Nat × Sharing
  | ⟨room, slots⟩ =>
    let slot := slot key slots.size
    match find? key slot slots with
    | some number => (number, ⟨room, slots⟩)
    | none => (room.states, ⟨grow room, slots.setIfInBounds slot (some (key, room.states))⟩)

end Sharing

/-! ## Sets read forwards -/

/-- A state that is not finished: its steps, each a range of bytes and the number of the state it
leads to, and the range of the last step, which leads to the next unfinished state. -/
structure OpenState where
  /-- The finished steps, three numbers each, from the end of the last to the start of the
  first. -/
  steps : List Nat
  /-- The range of the unfinished step. -/
  last : Option (Nat × Nat)

namespace OpenState

/-- The finished steps once the last one leads to a given state. -/
def closed (state : OpenState) (next : Nat) : List Nat :=
  match state.last with
  | none => state.steps
  | some (first, last) => next :: last :: first :: state.steps

/-- Finishes a path of open states, from its end to its start; gives the number of the first. -/
def closeAll (target : Nat) : List OpenState → Sharing → Nat × Sharing
  | [], s => (target, s)
  | state :: rest, s =>
    let (next, s) := closeAll target rest s
    let steps := (state.closed next).reverse
    s.share steps (Room.stepping (steps.length / 3))

/-- Adds a sequence of byte ranges. As far as it runs along the path, it shares it; the rest of the
path is finished, and that of the sequence opened. -/
def add (target : Nat) : List OpenState → List (Nat × Nat) → Sharing → List OpenState × Sharing
  | state :: rest, range :: ranges, s =>
    if state.last = some range then
      let (rest, s) := add target rest ranges s
      (state :: rest, s)
    else
      let (next, s) := closeAll target rest s
      (⟨state.closed next, some range⟩ :: ranges.map fun range => ⟨[], some range⟩, s)
  | path, _, s => (path, s)

end OpenState

/-- The states that read the bytes of a set of characters from the first to the last. -/
def forwardSet (sequences : List (List (Nat × Nat))) (room : Room) : Room :=
  let target := room.states
  let start : List OpenState × Sharing :=
    ([⟨[], none⟩], ⟨room.plain 1, Array.replicate 10000 none⟩)
  let addSequence (made : List OpenState × Sharing) (ranges : List (Nat × Nat)) :=
    OpenState.add target made.1 ranges made.2
  let (path, s) := sequences.foldl addSequence start
  (OpenState.closeAll target path s).2.room

/-! ## Sets read backwards -/

/-- The states that read the bytes of a set of characters from the last to the first: a branch
for every sequence, and a state for every range of bytes, shared between sequences that begin
alike. -/
def backwardSet (sequences : List (List (Nat × Nat))) (room : Room) : Room :=
  let target := room.states + 1
  let start : Sharing := ⟨(room.branching sequences.length).plain 1, Array.replicate 1000 none⟩
  let addRange (state : Nat × Sharing) (range : Nat × Nat) : Nat × Sharing :=
    state.2.share [state.1, range.1, range.2] (Room.plain 1)
  (sequences.foldl (fun s ranges => (ranges.foldl addRange (target, s)).2) start).room

/-! ## Alternatives of texts -/

/-- The lists between the empty texts of a list. -/
def betweenEmpty : List (List Nat) → List (List (List Nat))
  | [] => [[]]
  | [] :: rest => [] :: betweenEmpty rest
  | word :: rest =>
    match betweenEmpty rest with
    | [] => [[word]]
    | chunk :: chunks => (word :: chunk) :: chunks

/-- The list with at most one empty text at its start. -/
def dropRepeatedEmpty : List (List Nat) → List (List Nat)
  | [] :: [] :: rest => dropRepeatedEmpty ([] :: rest)
  | words => words

/-- What follows a given byte in the texts that begin with it. -/
def afterByte (byte : Nat) (words : List (List Nat)) : List (List Nat) :=
  words.filterMap fun
    | [] => none
    | b :: rest => if b = byte then some rest else none

/-- The states that read one of several texts, which share what they begin with as long as none of
them ends there. `fuel` is more than the length of the texts. -/
def wordStates : Nat → List (List Nat) → Room → Room
  | 0, _, room => room
  | fuel + 1, words, room =>
    let chunks := betweenEmpty (dropRepeatedEmpty words)
    let addChunk (room : Room) (chunk : List (List Nat)) : Room :=
      let bytes := (chunk.filterMap List.head?).eraseDups
      let room := bytes.foldl (fun room byte =>
        let rest := afterByte byte chunk
        if rest.all List.isEmpty then room else wordStates fuel rest room) room
      match bytes with
      | [] => room
      | [_] => room.plain 1
      | bytes => room.stepping bytes.length
    let leads := (chunks.filter (!·.isEmpty)).length + (chunks.length - 1)
    (chunks.foldl addChunk room).branching leads

/-! ## Patterns -/

/-- The direction in which an automaton reads. -/
inductive Direction where
  /-- From the first byte to the last. -/
  | forward
  /-- From the last byte to the first. -/
  | backward
  deriving DecidableEq

/-- What a pattern is for the one around it. -/
inductive Role where
  /-- Anything but what follows. -/
  | whole
  /-- The branches of an alternative but the first. -/
  | second
  /-- The branches of an alternative but the first two. -/
  | later

/-- The states that read a character of a set. -/
def setStates (direction : Direction) (s : CharSet) (room : Room) : Room :=
  if room.isOver then room
  else if s.isAscii then (room.plain 1).stepping s.toRanges.length
  else
    let sequences := s.toRanges.flatMap byteSequences
    match direction with
    | .forward => forwardSet sequences room
    | .backward => backwardSet sequences room

namespace Tree

/-- The bytes of a pattern that is a literal, in the order in which they are read. -/
def word? (direction : Direction) : Tree → Option (List Nat)
  | literal text =>
    let bytes := text.flatMap fun c => utf8Bytes c.toNat
    some (if direction = .forward then bytes else bytes.reverse)
  | _ => none

/-- The bytes of all branches, if all are literals. -/
def words? (direction : Direction) (branches : List Tree) : Option (List (List Nat)) :=
  branches.mapM (word? direction)

/-- The states that read exactly so many copies of a pattern, of which there may be none. -/
def exactStates (add : Room → Room) (count : Nat) (room : Room) : Room :=
  if count = 0 then room.plain 1 else room.copies add count

/-- The states of a repetition of a pattern whose states `add` adds. -/
def repetitionStates (add : Room → Room) (consumes : Bool) (least : Nat) (most : Option Nat)
    (room : Room) : Room :=
  match least, most with
  | 0, some 1 => (add (room.branching 2)).plain 1
  | 0, none =>
    if consumes then add (room.branching 2)
    else (((add room).branching 2).branching 2).plain 1
  | 1, none => (add room).branching 2
  | least + 1, none => (add (exactStates add least room)).branching 2
  | least, some most =>
    if least = most then exactStates add least room
    else
      ((exactStates add least room).plain 1).copies (fun room => add (room.branching 2))
        (most - least)

/-- The room with the states of a pattern. -/
def addStates (direction : Direction) : Tree → Role → Room → Room
  | either a b, role, room =>
    match role with
    | .whole =>
      let branches := a :: b.branches
      match words? direction branches with
      | some words =>
        let longest := words.foldl (fun n word => max n word.length) 0
        wordStates (longest + 1) words (room.plain 1)
      | none =>
        let listed : Room := { room with lists := room.lists + 4 * branches.length }
        b.addStates direction .second (a.addStates direction .whole listed)
    | .second => b.addStates direction .later ((a.addStates direction .whole room).plain 2)
    | .later => b.addStates direction .later (a.addStates direction .whole room)
  | empty, role, room | place _, role, room => close role (room.plain 1)
  | literal text, role, room => close role (room.plain (Text.utf8Length text))
  | set _ s, role, room => close role (setStates direction s room)
  | capture _ a, role, room =>
    close role
      (match direction with
      | .forward => (a.addStates direction .whole (room.plain 1)).plain 1
      | .backward => a.addStates direction .whole room)
  | concat a b, role, room =>
    close role
      (match direction with
      | .forward => b.addStates direction .whole (a.addStates direction .whole room)
      | .backward => a.addStates direction .whole (b.addStates direction .whole room))
  | repetition least most _ a, role, room =>
    close role
      (repetitionStates (a.addStates direction .whole) a.consumes least most room)
where
  /-- After the second branch of an alternative come the state that branches and the one where
  the branches meet. -/
  close (role : Role) (room : Room) : Room :=
    match role with
    | .second => room.plain 2
    | _ => room

/-- Whether all matches begin at the start of the text. -/
def beginsText : Tree → Bool
  | place p => p = .textStart
  | capture _ a => a.beginsText
  | concat a b => a.beginsText || (a.isNarrow && b.beginsText)
  | either a b => a.beginsText && b.beginsText
  | repetition least _ _ a => 0 < least && a.beginsText
  | empty | literal _ | set _ _ => false

/-- Whether all matches end at the end of the text. -/
def endsText : Tree → Bool
  | place p => p = .textEnd
  | capture _ a => a.endsText
  | concat a b => b.endsText || (b.isNarrow && a.endsText)
  | either a b => a.endsText && b.endsText
  | repetition least _ _ a => 0 < least && a.endsText
  | empty | literal _ | set _ _ => false

/-- The room of the automaton that finds a pattern. Unless all matches begin where it begins to
read, it can read any bytes before one. Forwards it also remembers where the match begins and
ends. -/
def room (direction : Direction) (tree : Tree) : Room :=
  let nothing : Room := ⟨0, 0⟩
  let anywhere := ((nothing.branching 2).plain 1).stepping 1
  match direction with
  | .forward =>
    let before := if tree.beginsText then nothing.plain 1 else anywhere
    (tree.addStates .forward .whole (before.plain 1)).plain 2
  | .backward =>
    let before := if tree.endsText then nothing.plain 1 else anywhere
    (tree.addStates .backward .whole before).plain 1

/-- Whether the automata of a pattern take no more room than they may. -/
def fits (tree : Tree) : Bool := !(tree.room .backward).isOver && !(tree.room .forward).isOver

end Tree

end DynamicSql.Pattern
