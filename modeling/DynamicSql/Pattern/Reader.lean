import DynamicSql.Pattern.Syntax
import DynamicSql.Text.Blank
import DynamicSql.Text.Letter

/-!
# Reading patterns

The usual notation of patterns: groups and flags `(?i)`, classes in brackets with ranges, nested
classes and set operations, escapes, and repetitions. There is no looking around and no
reference back to a group. A repetition needs something to repeat, and its least number must be
given.

Where flags ask for it, white space and comments are skipped, also inside escapes and between the
digits of a number.

Readers that call themselves take a number of steps that bounds their work: each step reads a
character or enters a group, so twice the length of the text is enough.
-/

namespace DynamicSql.Pattern

/-! ## Blanks -/

namespace Flags

/-- The characters of a text that are no white space or comments, as long as `accepts` holds of
them, and the text from the first one on of which it does not. `comment` says whether the text
begins inside a comment. -/
def spanSpaced (accepts : Char → Bool) (comment : Bool) : Text → Text × Text
  | [] => ([], [])
  | c :: rest =>
    if comment then spanSpaced accepts (c != '\n') rest
    else if c == '#' then spanSpaced accepts true rest
    else if Text.isBlank c then spanSpaced accepts false rest
    else if accepts c then
      let (taken, rest) := spanSpaced accepts false rest
      (c :: taken, rest)
    else ([], c :: rest)

/-- The characters that lead a text as long as `accepts` holds of them, and what follows; blanks
are left out if the flags say so. -/
def span (flags : Flags) (accepts : Char → Bool) (s : Text) : Text × Text :=
  if flags.spaced then spanSpaced accepts false s
  else (s.takeWhile accepts, s.dropWhile accepts)

/-- The text without the blanks that the flags skip. -/
def skip (flags : Flags) (s : Text) : Text := (flags.span (fun _ => false) s).2

/-- The character that decides whether a hyphen in a class makes a range, where the text follows
the hyphen. White space is looked through. So is the mark of a comment, but not what the comment
says; and if only these follow, the very next character decides. -/
def afterHyphen (flags : Flags) (s : Text) : Option Char :=
  if flags.spaced then (look false s).or s.head? else s.head?
where
  /-- Looks for the character, inside a comment or before one. -/
  look (comment : Bool) : Text → Option Char
    | [] => none
    | c :: rest =>
      if Text.isBlank c then look comment rest
      else if !comment && c == '#' then look true rest
      else some c

end Flags

/-! ## Numbers -/

/-- The character with a code point, if there is one. -/
def charOfCode? (code : Nat) : Option Char :=
  if code < 0xD800 ∨ 0xDFFF < code ∧ code < 0x110000 then some (Char.ofNat code) else none

/-- The character whose code point some hexadecimal digits stand for. -/
def charOfDigits? (digits : Text) : Option Char :=
  (digits.foldlM (fun n c => (Text.hexValue? c).map (n * 16 + ·)) 0).bind charOfCode?

/-- The given number of characters that lead a text, and what follows. -/
def takeSpaced? (flags : Flags) : Nat → Text → Option (Text × Text)
  | 0, s => some ([], s)
  | count + 1, s =>
    match flags.skip s with
    | [] => none
    | c :: rest => (takeSpaced? flags count rest).map fun (taken, rest) => (c :: taken, rest)

/-- The character of a hexadecimal escape with `count` digits, or with digits in braces. -/
def readHex? (flags : Flags) (count : Nat) (s : Text) : Option (Literal × Text) :=
  match flags.skip s with
  | '{' :: rest =>
    match flags.span (· != '}') rest with
    | ([], _) | (_, []) => none
    | (digits, _ :: rest) => (charOfDigits? digits).map fun c => (⟨c, false⟩, rest)
  | s => do
    let (digits, rest) ← takeSpaced? flags count s
    let c ← charOfDigits? digits
    return (⟨c, count == 2⟩, rest)

/-- A decimal number between white space, and what follows it. -/
def readCount? (flags : Flags) (s : Text) : Option (Nat × Text) :=
  match flags.span Char.isDigit (Text.trimStart s) with
  | ([], _) => none
  | (digits, rest) =>
    let n := Text.toNat digits
    if n < Nat.pow 2 32 then some (n, Text.trimStart rest) else none

/-! ## Escapes -/

/-- What an escape or a single character stands for. -/
inductive Atom where
  /-- A character. -/
  | char (l : Literal)
  /-- A set with a name. -/
  | set (set : NamedSet)
  /-- A place. -/
  | place (sign : PlaceSign)

/-- The character that stands for itself. -/
def Atom.plain (c : Char) : Atom := .char ⟨c, false⟩

/-- The description of a property, in braces or of one letter. -/
def readDescription? (flags : Flags) (s : Text) : Option (Text × Text) :=
  match flags.skip s with
  | '{' :: rest =>
    match flags.span (· != '}') rest with
    | (_, []) => none
    | (description, _ :: rest) => some (description, rest)
  | '\\' :: _ | [] => none
  | c :: rest => some ([c], rest)

/-- The kinds of word edges with a name in braces. -/
def edgeNames : List (String × WordEdge) := [
  ("start", .start), ("end", .stop), ("start-half", .startHalf), ("end-half", .stopHalf)]

/-- The word edge after `\b`, which may be named in braces; other braces are left alone. -/
def readEdge? (flags : Flags) : Text → Option (WordEdge × Text)
  | '{' :: rest =>
    let isNameChar (c : Char) : Bool := c.isAlpha || c == '-'
    match flags.skip rest, flags.span isNameChar rest with
    | [], _ => none
    | _, ([], _) => some (.either, '{' :: rest)
    | _, (name, '}' :: rest) => (edgeNames.lookup (String.ofList name)).map (·, rest)
    | _, _ => none
  | s => some (.either, s)

/-- The escape after a backslash. -/
def readEscape? (flags : Flags) : Text → Option (Atom × Text)
  | [] => none
  | 'a' :: rest => some (.plain '\x07', rest)
  | 'f' :: rest => some (.plain '\x0c', rest)
  | 't' :: rest => some (.plain '\t', rest)
  | 'n' :: rest => some (.plain '\n', rest)
  | 'r' :: rest => some (.plain '\r', rest)
  | 'v' :: rest => some (.plain '\x0b', rest)
  | 'A' :: rest => some (.place .textStart, rest)
  | 'z' :: rest => some (.place .textEnd, rest)
  | 'b' :: rest => (readEdge? flags rest).map fun (edge, rest) => (.place (.word edge), rest)
  | 'B' :: rest => some (.place (.word .neither), rest)
  | '<' :: rest => some (.place (.word .start), rest)
  | '>' :: rest => some (.place (.word .stop), rest)
  | 'x' :: rest => (readHex? flags 2 rest).map fun (l, rest) => (.char l, rest)
  | 'u' :: rest => (readHex? flags 4 rest).map fun (l, rest) => (.char l, rest)
  | 'U' :: rest => (readHex? flags 8 rest).map fun (l, rest) => (.char l, rest)
  | 'p' :: rest =>
    (readDescription? flags rest).map fun (text, rest) => (.set (.property false text), rest)
  | 'P' :: rest =>
    (readDescription? flags rest).map fun (text, rest) => (.set (.property true text), rest)
  | 'd' :: rest => some (.set (.digit false), rest)
  | 'D' :: rest => some (.set (.digit true), rest)
  | 's' :: rest => some (.set (.space false), rest)
  | 'S' :: rest => some (.set (.space true), rest)
  | 'w' :: rest => some (.set (.word false), rest)
  | 'W' :: rest => some (.set (.word true), rest)
  | c :: rest => if c.toNat < 0x80 && !c.isAlphanum then some (.plain c, rest) else none

/-! ## Classes -/

/-- The sets of ASCII characters that may be named inside brackets, as `[:alpha:]`. -/
def asciiNames : List (String × CharSet) := [
  ("alnum", .ofRanges [(0x30, 0x39), (0x41, 0x5A), (0x61, 0x7A)]),
  ("alpha", .ofRanges [(0x41, 0x5A), (0x61, 0x7A)]),
  ("ascii", .ascii),
  ("blank", .ofRanges [(0x09, 0x09), (0x20, 0x20)]),
  ("cntrl", .ofRanges [(0x00, 0x1F), (0x7F, 0x7F)]),
  ("digit", .asciiDigit),
  ("graph", .range 0x21 0x7E),
  ("lower", .range 0x61 0x7A),
  ("print", .range 0x20 0x7E),
  ("punct", .ofRanges [(0x21, 0x2F), (0x3A, 0x40), (0x5B, 0x60), (0x7B, 0x7E)]),
  ("space", .asciiSpace),
  ("upper", .range 0x41 0x5A),
  ("word", .asciiWord),
  ("xdigit", .ofRanges [(0x30, 0x39), (0x41, 0x46), (0x61, 0x66)])]

namespace ClassBody

/-- Several items, the last first, as one. -/
def ofItems : List ClassBody → ClassBody
  | [] => .empty
  | [item] => item
  | items => .union items.reverse

/-- An item after the operation that waits for it, if one does. -/
def after (pending : Option (SetOperator × ClassBody)) (item : ClassBody) : ClassBody :=
  match pending with
  | none => item
  | some (op, left) => .combined op left item

end ClassBody

/-- A set named between `[:` and `:]`, after the opening bracket. -/
def readNamedClass? : Text → Option (ClassBody × Text)
  | ':' :: rest =>
    let (negated, rest) :=
      match rest with
      | '^' :: rest => (true, rest)
      | rest => (false, rest)
    match rest.dropWhile (· != ':') with
    | ':' :: ']' :: after =>
      (asciiNames.lookup (String.ofList (rest.takeWhile (· != ':')))).map fun set =>
        (.ascii negated set, after)
    | _ => none
  | _ => none

/-- One character or escape inside a class. -/
def readClassAtom? (flags : Flags) : Text → Option (Atom × Text)
  | [] => none
  | '\\' :: rest => readEscape? flags rest
  | c :: rest => some (.plain c, rest)

/-- The item of a class that is one character or set. -/
def Atom.classItem? : Atom → Option ClassBody
  | .char l => some (.literal l)
  | .set s => some (.named s)
  | .place _ => none

/-- One character, escape or range inside a class. -/
def readClassRange? (flags : Flags) (s : Text) : Option (ClassBody × Text) := do
  let (first, rest) ← readClassAtom? flags s
  match flags.skip rest with
  | '-' :: after =>
    if flags.afterHyphen after == some ']' || flags.afterHyphen after == some '-' then
      first.classItem?.map (·, rest)
    else
      let (last, rest) ← readClassAtom? flags (flags.skip after)
      match first, last with
      | .char a, .char b => if a.char ≤ b.char then some (.range a b, rest) else none
      | _, _ => none
  | [] => none
  | _ => first.classItem?.map (·, rest)

/-- The hyphens that may lead a class, each of which stands for itself. -/
def readHyphens (flags : Flags) (s : Text) : List ClassBody × Text :=
  let (hyphens, rest) := flags.span (· == '-') s
  (hyphens.map fun c => .literal ⟨c, false⟩, rest)

/-- What may lead a class: hyphens, or a closing bracket in their place. -/
def readClassLead (flags : Flags) (s : Text) : List ClassBody × Text :=
  match readHyphens flags s with
  | ([], ']' :: rest) => ([.literal ⟨']', false⟩], flags.skip rest)
  | (items, rest) => (items, rest)

mutual

/-- A class after its opening bracket: whether it is negated, and its inside. -/
def readClass? (fuel : Nat) (flags : Flags) (s : Text) : Option (Bool × ClassBody × Text) :=
  match fuel with
  | 0 => none
  | fuel + 1 => do
    let s := flags.skip s
    let (negated, s) :=
      match s with
      | '^' :: rest => (true, rest)
      | s => (false, s)
    let (items, s) := readClassLead flags s
    let (body, rest) ← readClassItems? fuel flags none items s
    return (negated, body, rest)

/-- The items of a class up to its closing bracket, after those already read, the last first. -/
def readClassItems? (fuel : Nat) (flags : Flags) (pending : Option (SetOperator × ClassBody))
    (items : List ClassBody) (s : Text) : Option (ClassBody × Text) :=
  match fuel with
  | 0 => none
  | fuel + 1 =>
    let sofar := ClassBody.after pending (.ofItems items)
    match flags.skip s with
    | [] => none
    | ']' :: rest => some (sofar, rest)
    | '&' :: '&' :: rest => readClassItems? fuel flags (some (.inter, sofar)) [] rest
    | '-' :: '-' :: rest => readClassItems? fuel flags (some (.diff, sofar)) [] rest
    | '~' :: '~' :: rest => readClassItems? fuel flags (some (.symmDiff, sofar)) [] rest
    | '[' :: rest =>
      match readNamedClass? rest with
      | some (named, rest) => readClassItems? fuel flags pending (named :: items) rest
      | none =>
        match readClass? fuel flags rest with
        | none => none
        | some (negated, body, rest) =>
          readClassItems? fuel flags pending (.bracketed negated body :: items) rest
    | s =>
      match readClassRange? flags s with
      | none => none
      | some (item, rest) => readClassItems? fuel flags pending (item :: items) rest

end

/-! ## Groups and flags -/

/-- What stands after `(?`. -/
inductive GroupStart where
  /-- Flags for the rest of the enclosing group. -/
  | flags (flags : Flags) (rest : Text)
  /-- A group with these flags. -/
  | group (flags : Flags) (rest : Text)
  /-- A group with a name. -/
  | named (name rest : Text)

/-- The flags of a group, after the letters already read; `off` once a minus sign has been read,
and `dangling` while a letter has to follow it. -/
def readFlags? (flags : Flags) (seen : Text) (off dangling : Bool) : Text → Option GroupStart
  | [] => none
  | ')' :: rest => if dangling || seen.isEmpty then none else some (.flags flags rest)
  | ':' :: rest => if dangling then none else some (.group flags rest)
  | '-' :: rest => if off then none else readFlags? flags seen true true rest
  | c :: rest =>
    if seen.contains c then none
    else
      match flags.set? (!off) c with
      | none => none
      | some flags => readFlags? flags (c :: seen) off false rest

/-- The name of a group up to the closing angle bracket. -/
def readGroupName? (s : Text) : Option GroupStart :=
  let name := s.takeWhile (· != '>')
  let inner (c : Char) : Bool :=
    c == '_' || c == '.' || c == '[' || c == ']' || Text.isLetterOrNumeral c
  match name, s.dropWhile (· != '>') with
  | c :: more, _ :: rest =>
    if (c == '_' || Text.isLetter c) && more.all inner then some (.named name rest) else none
  | _, _ => none

/-- What stands after `(?`. -/
def readGroupStart? (flags : Flags) : Text → Option GroupStart
  | '<' :: '=' :: _ | '<' :: '!' :: _ => none
  | 'P' :: '<' :: rest => readGroupName? rest
  | '<' :: rest => readGroupName? rest
  | s => readFlags? flags [] false false s

/-! ## Repetitions -/

/-- The bounds of a repetition in braces, after the opening one. -/
def readBounds? (flags : Flags) (s : Text) : Option (Nat × Option Nat × Text) := do
  let (least, rest) ← readCount? flags (flags.skip s)
  match rest with
  | '}' :: rest => some (least, some least, rest)
  | ',' :: rest =>
    match flags.skip rest with
    | '}' :: rest => some (least, none, rest)
    | rest =>
      let (most, rest) ← readCount? flags rest
      match rest with
      | '}' :: rest => if least ≤ most then some (least, some most, rest) else none
      | _ => none
  | _ => none

/-- The bounds of the repetition that leads a text, if one does: none inside if it is faulty.
Blanks may follow braces, but not the other signs. -/
def readRepetition? (flags : Flags) : Text → Option (Option (Nat × Option Nat × Text))
  | '*' :: rest => some (some (0, none, rest))
  | '+' :: rest => some (some (1, none, rest))
  | '?' :: rest => some (some (0, some 1, rest))
  | '{' :: rest =>
    some ((readBounds? flags rest).map fun (least, most, rest) => (least, most, flags.skip rest))
  | _ => none

/-! ## Patterns -/

/-- The pattern of a character or escape. -/
def Atom.written (flags : Flags) : Atom → Syntax
  | .char l => .literal flags l
  | .set s => .named flags s
  | .place sign => .place flags sign

/-- What has been read of a group. -/
structure Progress where
  /-- The flags in force. -/
  flags : Flags
  /-- The number of groups so far that have one. -/
  groups : Nat
  /-- The names of groups so far. -/
  names : List Text
  /-- The finished branches, the last first. -/
  branches : List Syntax := []
  /-- The parts of the current branch, the last first. -/
  parts : List Syntax := []

namespace Progress

/-- With one part more. -/
def push (p : Progress) (part : Syntax) : Progress := { p with parts := part :: p.parts }

/-- The current branch. -/
def branch (p : Progress) : Syntax :=
  match p.parts with
  | [] => .empty
  | [part] => part
  | parts => .concat parts.reverse

/-- The whole group. -/
def written (p : Progress) : Syntax :=
  match p.branches with
  | [] => p.branch
  | branches => .alternative (p.branch :: branches).reverse

/-- With the last part repeated; a change of modes cannot be. -/
def repeatLast? (p : Progress) (least : Nat) (most : Option Nat) (isLazy : Bool) :
    Option Progress :=
  match p.parts with
  | [] | .modes :: _ => none
  | part :: parts =>
    let repetition := .repetition least most (isLazy == p.flags.swapGreed) part
    some { p with parts := repetition :: parts }

end Progress

/-- Reads a group, or the whole pattern, up to its closing parenthesis or the end. -/
def readGroup? (fuel : Nat) (p : Progress) (s : Text) : Option (Progress × Text) :=
  match fuel with
  | 0 => none
  | fuel + 1 =>
    let s := p.flags.skip s
    match readRepetition? p.flags s with
    | some none => none
    | some (some (least, most, rest)) =>
      let (isLazy, rest) :=
        match rest with
        | '?' :: rest => (true, rest)
        | rest => (false, rest)
      match p.repeatLast? least most isLazy with
      | none => none
      | some p => readGroup? fuel p rest
    | none =>
      match s with
      | [] => some (p, [])
      | ')' :: _ => some (p, s)
      | '|' :: rest =>
        readGroup? fuel { p with branches := p.branch :: p.branches, parts := [] } rest
      | '(' :: rest =>
        match p.flags.skip rest with
        | '?' :: rest =>
          match readGroupStart? p.flags rest with
          | none => none
          | some (.flags flags rest) => readGroup? fuel { p.push .modes with flags } rest
          | some (.group flags rest) => readNested fuel p none { p with flags } rest
          | some (.named name rest) =>
            if p.names.contains name then none
            else
              let groups := p.groups + 1
              readNested fuel p (some groups) { p with groups, names := name :: p.names } rest
        | rest =>
          let groups := p.groups + 1
          readNested fuel p (some groups) { p with groups } rest
      | '[' :: rest =>
        match readClass? (2 * rest.length + 2) p.flags rest with
        | none => none
        | some (negated, body, rest) =>
          readGroup? fuel (p.push (.bracketed p.flags negated body)) rest
      | '\\' :: rest =>
        match readEscape? p.flags rest with
        | none => none
        | some (atom, rest) => readGroup? fuel (p.push (atom.written p.flags)) rest
      | '.' :: rest => readGroup? fuel (p.push (.dot p.flags)) rest
      | '^' :: rest => readGroup? fuel (p.push (.place p.flags .caret)) rest
      | '$' :: rest => readGroup? fuel (p.push (.place p.flags .dollar)) rest
      | c :: rest => readGroup? fuel (p.push ((Atom.plain c).written p.flags)) rest
where
  /-- Reads the nested group with the given number after its opening, and then goes on with the
  enclosing one. -/
  readNested (fuel : Nat) (p : Progress) (index : Option Nat) (inner : Progress) (s : Text) :
      Option (Progress × Text) :=
    match fuel with
    | 0 => none
    | fuel + 1 =>
      match readGroup? fuel { inner with branches := [], parts := [] } s with
      | some (inner, ')' :: rest) =>
        let p := p.push (.group index inner.written)
        readGroup? fuel { p with groups := inner.groups, names := inner.names } rest
      | _ => none

/-- Patterns may not be nested more deeply than this. -/
def maxDepth : Nat := 250

/-- The pattern that a text writes, if it is one and not nested too deeply. -/
def Syntax.ofText? (s : Text) : Option Syntax :=
  match readGroup? (2 * s.length + 2) { flags := {}, groups := 0, names := [] } s with
  | some (p, []) => if p.written.depth ≤ maxDepth then some p.written else none
  | _ => none

end DynamicSql.Pattern
