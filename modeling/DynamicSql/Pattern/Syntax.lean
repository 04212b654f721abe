import DynamicSql.Pattern.Basic
import DynamicSql.Pattern.Property

/-!
# Written patterns

A pattern as it is written, with the modes in force where they matter. `Syntax.depth` is how
deeply it is nested, and `Syntax.tree?` is what it means, if it means anything: a pattern over
ASCII may only name sets of ASCII, since anything else would match parts of characters.
-/

namespace DynamicSql.Pattern

/-! ## Modes -/

/-- The modes that a pattern may switch on and off. -/
structure Flags where
  /-- `i`: letters stand for both cases. -/
  ignoreCase : Bool := false
  /-- `m`: `^` and `$` also match at lines. -/
  multiLine : Bool := false
  /-- `s`: a point matches line breaks too. -/
  dotAll : Bool := false
  /-- `U`: repetitions are lazy, and greedy with a question mark. -/
  swapGreed : Bool := false
  /-- `R`: lines may end in a carriage return. -/
  crlf : Bool := false
  /-- `u`: sets are those of Unicode. -/
  unicode : Bool := true
  /-- `x`: white space and comments are skipped. -/
  spaced : Bool := false

/-- Switches a mode by its letter. -/
def Flags.set? (flags : Flags) (on : Bool) : Char → Option Flags
  | 'i' => some { flags with ignoreCase := on }
  | 'm' => some { flags with multiLine := on }
  | 's' => some { flags with dotAll := on }
  | 'U' => some { flags with swapGreed := on }
  | 'R' => some { flags with crlf := on }
  | 'u' => some { flags with unicode := on }
  | 'x' => some { flags with spaced := on }
  | _ => none

/-! ## Written forms -/

/-- A character as it is written. -/
structure Literal where
  /-- The character. -/
  char : Char
  /-- Whether it is written by two hexadecimal digits, and so may stand for a byte. -/
  isByte : Bool

/-- A set with a name. -/
inductive NamedSet where
  /-- `\d`, or `\D` if negated: decimal digits. -/
  | digit (negated : Bool)
  /-- `\s`, or `\S` if negated: white space. -/
  | space (negated : Bool)
  /-- `\w`, or `\W` if negated: characters of words. -/
  | word (negated : Bool)
  /-- `\p` with a description, or `\P` if negated: characters with a property. -/
  | property (negated : Bool) (description : Text)

/-- The operations between the sets of a class. -/
inductive SetOperator where
  /-- `&&`: what is in both. -/
  | inter
  /-- `--`: what is in the first only. -/
  | diff
  /-- `~~`: what is in exactly one. -/
  | symmDiff

/-- What stands between the brackets of a class. -/
inductive ClassBody where
  /-- Nothing. -/
  | empty
  /-- A character. -/
  | literal (l : Literal)
  /-- The characters from one to another. -/
  | range (first last : Literal)
  /-- A set of ASCII with a name, as `[:alpha:]`. -/
  | ascii (negated : Bool) (set : CharSet)
  /-- A set with a name. -/
  | named (set : NamedSet)
  /-- A class inside the class. -/
  | bracketed (negated : Bool) (body : ClassBody)
  /-- Several of these. -/
  | union (items : List ClassBody)
  /-- Two of these with an operation between them. -/
  | combined (op : SetOperator) (left right : ClassBody)

/-- The signs for places. -/
inductive PlaceSign where
  /-- `^` -/
  | caret
  /-- `$` -/
  | dollar
  /-- `\A` -/
  | textStart
  /-- `\z` -/
  | textEnd
  /-- `\b` and its relatives. -/
  | word (edge : WordEdge)

/-- A pattern as it is written. -/
inductive Syntax where
  /-- Nothing. -/
  | empty
  /-- A change of modes, which matches the empty text. -/
  | modes
  /-- A character. -/
  | literal (flags : Flags) (l : Literal)
  /-- A point. -/
  | dot (flags : Flags)
  /-- A place. -/
  | place (flags : Flags) (sign : PlaceSign)
  /-- A set with a name. -/
  | named (flags : Flags) (set : NamedSet)
  /-- A class in brackets. -/
  | bracketed (flags : Flags) (negated : Bool) (body : ClassBody)
  /-- A pattern repeated at least `least` and at most `most` times. -/
  | repetition (least : Nat) (most : Option Nat) (greedy : Bool) (body : Syntax)
  /-- A group, with its number if it has one. -/
  | group (index : Option Nat) (body : Syntax)
  /-- Several patterns one after the other. -/
  | concat (items : List Syntax)
  /-- Several patterns to choose from. -/
  | alternative (branches : List Syntax)

/-! ## Depth -/

mutual

/-- How deeply the inside of a class is nested. -/
def ClassBody.depth : ClassBody → Nat
  | bracketed _ body => body.depth + 1
  | union items => ClassBody.depthOfAll items + 1
  | combined _ left right => max left.depth right.depth + 1
  | _ => 0

/-- The greatest depth of some parts of a class. -/
def ClassBody.depthOfAll : List ClassBody → Nat
  | [] => 0
  | item :: rest => max item.depth (ClassBody.depthOfAll rest)

end

mutual

/-- How deeply a pattern is nested in groups, repetitions, sequences, alternatives and classes. -/
def Syntax.depth : Syntax → Nat
  | bracketed _ _ body => body.depth + 1
  | repetition _ _ _ body | group _ body => body.depth + 1
  | concat items | alternative items => Syntax.depthOfAll items + 1
  | _ => 0

/-- The greatest depth of some patterns. -/
def Syntax.depthOfAll : List Syntax → Nat
  | [] => 0
  | item :: rest => max item.depth (Syntax.depthOfAll rest)

end

/-! ## Sets -/

namespace CharSet

/-- `\d` in ASCII. -/
def asciiDigit : CharSet := range 0x30 0x39

/-- `\s` in ASCII. -/
def asciiSpace : CharSet := ofRanges [(0x09, 0x0D), (0x20, 0x20)]

/-- `\w` in ASCII. -/
def asciiWord : CharSet := ofRanges [(0x30, 0x39), (0x41, 0x5A), (0x5F, 0x5F), (0x61, 0x7A)]

end CharSet

namespace Flags

/-- The set with both cases of its letters, if case is ignored. In ASCII only letters of ASCII
are cases of each other. -/
def fold (flags : Flags) (s : CharSet) : CharSet :=
  if !flags.ignoreCase then s
  else if flags.unicode then s.folded
  else s.folded.inter .ascii

/-- The set, unless it has characters beyond ASCII in a pattern over ASCII. -/
def permit? (flags : Flags) (s : CharSet) : Option CharSet :=
  if flags.unicode || s.isAscii then some s else none

/-- The set folded and then negated, if it is permitted so. -/
def finish? (flags : Flags) (negated : Bool) (s : CharSet) : Option CharSet :=
  flags.permit? ((flags.fold s).negatedIf negated)

end Flags

/-- The character, unless it is a byte beyond ASCII in a pattern over ASCII. -/
def Literal.char? (l : Literal) (flags : Flags) : Option Char :=
  if !flags.unicode && l.isByte && 0x80 ≤ l.char.toNat then none else some l.char

/-- The character inside a class, which has to be of ASCII in a pattern over ASCII. -/
def Literal.classChar? (l : Literal) (flags : Flags) : Option Char :=
  if !flags.unicode && 0x80 ≤ l.char.toNat then none else some l.char

/-- The set that a name stands for. -/
def NamedSet.set? (flags : Flags) : NamedSet → Option CharSet
  | digit negated => shorthand? negated Property.digit .asciiDigit
  | space negated => shorthand? negated Property.whiteSpace .asciiSpace
  | word negated => shorthand? negated Property.word .asciiWord
  | property negated description =>
    if !flags.unicode then none
    else
      (Property.find? description).bind fun (others, s) =>
        flags.finish? (negated != others) s
where
  /-- One of two sets, or what is not in it. -/
  shorthand? (negated : Bool) (unicode ascii : CharSet) : Option CharSet :=
    flags.permit? ((if flags.unicode then unicode else ascii).negatedIf negated)

/-- The set that an operation makes of two. -/
def SetOperator.apply : SetOperator → CharSet → CharSet → CharSet
  | inter => CharSet.inter
  | diff => CharSet.diff
  | symmDiff => CharSet.symmDiff

mutual

/-- The set that the inside of a class describes. -/
def ClassBody.set? (flags : Flags) : ClassBody → Option CharSet
  | empty => some .none
  | literal l => (l.classChar? flags).map .single
  | range first last => do
    let first ← first.classChar? flags
    let last ← last.classChar? flags
    return (CharSet.range first.toNat last.toNat).inter .any
  | ascii negated s => flags.finish? negated s
  | named n => n.set? flags
  | bracketed negated body => (body.set? flags).bind (flags.finish? negated)
  | union items => ClassBody.setOfAll? flags items
  | combined op left right => do
    let left ← left.set? flags
    let right ← right.set? flags
    return op.apply (flags.fold left) (flags.fold right)

/-- The union of the sets that some parts of a class describe. -/
def ClassBody.setOfAll? (flags : Flags) : List ClassBody → Option CharSet
  | [] => some .none
  | item :: rest => do
    let s ← item.set? flags
    let t ← ClassBody.setOfAll? flags rest
    return s.union t

end

/-! ## Meaning -/

/-- What a point stands for: any character, or any that ends no line. Over ASCII it would stand
for parts of characters. -/
def dotSet? (flags : Flags) : Option CharSet :=
  if !flags.unicode then none
  else if flags.dotAll then some .any
  else
    let ends := CharSet.single '\n'
    some (if flags.crlf then ends.union (.single '\r') else ends).complement

/-- The place that a sign stands for. -/
def PlaceSign.place (flags : Flags) : PlaceSign → Place
  | caret => if flags.multiLine then .lineStart flags.crlf else .textStart
  | dollar => if flags.multiLine then .lineEnd flags.crlf else .textEnd
  | textStart => .textStart
  | textEnd => .textEnd
  | word edge => .word edge flags.unicode

/-- What a character stands for: itself, or the set of its cases. In ASCII a character beyond it
has no other case. -/
def Literal.tree? (flags : Flags) (l : Literal) : Option Tree :=
  (l.char? flags).map fun c =>
    if flags.unicode || c.toNat < 0x80 then Tree.ofSet flags.unicode (flags.fold (.single c))
    else .literal [c]

mutual

/-- What a written pattern means. -/
def Syntax.tree? : Syntax → Option Tree
  | empty | modes => some .empty
  | literal flags l => l.tree? flags
  | dot flags => (dotSet? flags).map (Tree.ofSet true)
  | place flags sign => some (.place (sign.place flags))
  | named flags n => (n.set? flags).map (Tree.ofSet flags.unicode)
  | bracketed flags negated body => do
    let s ← body.set? flags
    let s ← flags.finish? negated s
    return Tree.ofSet flags.unicode s
  | repetition least most greedy body => body.tree?.map (Tree.repeated least most greedy)
  | group none body => body.tree?
  | group (some index) body => body.tree?.map (Tree.capture index)
  | concat items => (Syntax.treesOfAll? items).map Tree.concatAll
  | alternative items => (Syntax.treesOfAll? items).map Tree.eitherAll

/-- What some written patterns mean. -/
def Syntax.treesOfAll? : List Syntax → Option (List Tree)
  | [] => some []
  | item :: rest => do
    let tree ← item.tree?
    let trees ← Syntax.treesOfAll? rest
    return tree :: trees

end

end DynamicSql.Pattern
