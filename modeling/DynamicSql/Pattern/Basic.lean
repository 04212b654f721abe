import DynamicSql.Pattern.CharSet

/-!
# Patterns

A pattern describes texts. Alternatives and repetitions are ordered: of several ways to match,
the earlier alternative and the longer repetition come first, or the shorter one if the
repetition is lazy.

A pattern is kept in a simple form. Neighbouring characters are one literal, the parts of a
sequence are no sequences and the branches of an alternative no alternatives, a set has more than
one character, and what all branches begin with stands before the alternative. The functions
`Tree.ofSet`, `Tree.concatAll`, `Tree.eitherAll` and `Tree.repeated` keep this form. It matters to
which of several matches is preferred: `a*a|a*b` is `a*[ab]`, so it matches all of `aab`.
-/

namespace DynamicSql.Pattern

/-- How a place lies to a word. -/
inductive WordEdge where
  /-- At its start or end. -/
  | either
  /-- At neither. -/
  | neither
  /-- At its start. -/
  | start
  /-- At its end. -/
  | stop
  /-- Not behind a character of a word. -/
  | startHalf
  /-- Not before a character of a word. -/
  | stopHalf
  deriving DecidableEq

/-- Whether a place lies so, by whether the characters before and after it are of words. -/
def WordEdge.judge : WordEdge → Bool → Bool → Bool
  | either, before, after => before != after
  | neither, before, after => before == after
  | start, before, after => !before && after
  | stop, before, after => before && !after
  | startHalf, before, _ => !before
  | stopHalf, _, after => !after

/-- A condition on a place between characters. -/
inductive Place where
  /-- The start of the text. -/
  | textStart
  /-- The end of the text. -/
  | textEnd
  /-- The start of the text or of a line; carriage returns end lines too if `crlf`. -/
  | lineStart (crlf : Bool)
  /-- The end of the text or of a line; carriage returns end lines too if `crlf`. -/
  | lineEnd (crlf : Bool)
  /-- A place by the side of a word, whose characters are those of ASCII or of Unicode. -/
  | word (edge : WordEdge) (unicode : Bool)
  deriving DecidableEq

/-- The structure of a pattern. -/
inductive Tree where
  /-- The empty text. -/
  | empty
  /-- A text. -/
  | literal (text : Text)
  /-- One character of a set, which is one of Unicode or of ASCII. -/
  | set (unicode : Bool) (set : CharSet)
  /-- The empty text, at certain places. -/
  | place (place : Place)
  /-- What a group matches, which is remembered under its number. -/
  | capture (index : Nat) (a : Tree)
  /-- One pattern after the other. -/
  | concat (a b : Tree)
  /-- One pattern or the other, the first preferred. -/
  | either (a b : Tree)
  /-- A pattern repeated at least `least` and at most `most` times. -/
  | repetition (least : Nat) (most : Option Nat) (greedy : Bool) (a : Tree)
  deriving DecidableEq

namespace Tree

/-- The pattern that matches nothing. -/
def fail : Tree := set false .none

/-! ## Lengths -/

/-- The length of the shortest match, unless a part may match nothing. -/
def leastLength? : Tree → Option Nat
  | empty | place _ => some 0
  | literal text => some text.length
  | set _ s => if s.isEmpty then none else some 1
  | capture _ a => a.leastLength?
  | concat a b => do return (← a.leastLength?) + (← b.leastLength?)
  | either a b => do return min (← a.leastLength?) (← b.leastLength?)
  | repetition least _ _ a => a.leastLength?.map (least * ·)

/-- Whether every match has at least one character. -/
def consumes (tree : Tree) : Bool := tree.leastLength?.any (0 < ·)

/-- Whether the pattern matches the empty text only. -/
def isNarrow : Tree → Bool
  | empty | place _ => true
  | literal text => text.isEmpty
  | set _ _ => false
  | capture _ a => a.isNarrow
  | concat a b => a.isNarrow && b.isNarrow
  | either a b => a.isNarrow && b.isNarrow
  | repetition _ most _ a => most == some 0 || a.isNarrow

/-- The number of nodes. -/
def size : Tree → Nat
  | empty | literal _ | set _ _ | place _ => 1
  | capture _ a | repetition _ _ _ a => a.size + 1
  | concat a b | either a b => a.size + b.size + 1

/-! ## Sequences -/

/-- The parts of a sequence. -/
def parts : Tree → List Tree
  | empty => []
  | concat a b => a :: b.parts
  | tree => [tree]

/-- The sequence of some parts. -/
def ofParts : List Tree → Tree
  | [] => empty
  | [a] => a
  | a :: rest => concat a (ofParts rest)

/-- A part before others; literals that meet become one. -/
def consPart (part : Tree) (rest : List Tree) : List Tree :=
  match part, rest with
  | literal a, literal b :: rest => literal (a ++ b) :: rest
  | part, rest => part :: rest

/-- The patterns of a list one after the other. -/
def concatAll (trees : List Tree) : Tree :=
  ofParts ((trees.flatMap parts).foldr consPart [])

/-! ## Sets and repetitions -/

/-- One character of a set. -/
def ofSet (unicode : Bool) (s : CharSet) : Tree :=
  if s.isEmpty then fail
  else
    match s.toSingle? with
    | some c => literal [c]
    | none => set unicode s

/-- A repetition; of a pattern without characters, one is as good as many. -/
def repeated (least : Nat) (most : Option Nat) (greedy : Bool) (a : Tree) : Tree :=
  let (least, most) :=
    if a.isNarrow then (min least 1, some (min (most.getD 1) 1)) else (least, most)
  match least, most with
  | 0, some 0 => empty
  | 1, some 1 => a
  | _, _ => repetition least most greedy a

/-! ## Alternatives -/

/-- The branches of an alternative. -/
def branches : Tree → List Tree
  | either a b => a :: b.branches
  | tree => [tree]

/-- The alternative of some branches. -/
def ofBranches : List Tree → Tree
  | [] => fail
  | [a] => a
  | a :: rest => either a (ofBranches rest)

/-- The character of a literal that has only one. -/
def toChar? : Tree → Option Char
  | literal [c] => some c
  | _ => none

/-- The set of a pattern that is one. -/
def toSet? : Tree → Option CharSet
  | set _ s => some s
  | _ => none

/-- The set that branches make together: all of them are single characters, or all are sets. -/
def mergedSet? (branches : List Tree) : Option CharSet :=
  match branches.mapM toChar? with
  | some chars => some (chars.foldr (fun c s => (CharSet.single c).union s) .none)
  | none => (branches.mapM toSet?).map fun sets => sets.foldr CharSet.union .none

/-- The parts of a pattern that is a sequence. -/
def sequence? : Tree → Option (List Tree)
  | concat a b => some (a :: b.parts)
  | _ => none

/-- What two lists have in common at their start. -/
def commonStart : List Tree → List Tree → List Tree
  | a :: as, b :: bs => if a = b then a :: commonStart as bs else []
  | _, _ => []

/-- The parts that all branches begin with, if all are sequences. -/
def sharedStart (branches : List Tree) : List Tree :=
  match branches.mapM sequence? with
  | some (first :: rest) => rest.foldl commonStart first
  | _ => []

/-- The alternative of a list of patterns; shared starts are taken out of it at most `fuel`
times. -/
def eitherWithin : Nat → List Tree → Tree
  | 0, trees => ofBranches (trees.flatMap branches)
  | fuel + 1, trees =>
    match trees.flatMap branches with
    | [] => fail
    | [tree] => tree
    | branches =>
      match mergedSet? branches, sharedStart branches with
      | some s, _ => ofSet true s
      | none, [] => ofBranches branches
      | none, start =>
        let rests := branches.map fun branch => concatAll (branch.parts.drop start.length)
        concatAll (start ++ [eitherWithin fuel rests])

/-- The first pattern of a list that matches. Taking a start out makes the branches smaller, so
it is done less often than they have nodes. -/
def eitherAll (trees : List Tree) : Tree :=
  eitherWithin (trees.foldl (fun n tree => n + tree.size) 1) trees

end Tree

end DynamicSql.Pattern
