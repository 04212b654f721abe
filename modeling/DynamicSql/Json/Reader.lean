import DynamicSql.Json.Basic
import DynamicSql.Number.Nearest

/-!
# Reading JSON

The reader accepts the JSON grammar and nothing else: no characters after the document, no
control characters inside strings, no halves of surrogate pairs, and at most 127 levels of
arrays and objects.

A whole number that fits 64 bits is an integer; `-0` and every other number is a
floating-point number. Its digits are read into a 64-bit significand, the digits that no longer
fit being dropped, and one multiplication or division by a power of ten gives the number. A
number too large for a float is refused.
-/

namespace DynamicSql.Json

/-- The text without the white space that leads it. -/
def skipSpace (s : Text) : Text :=
  s.dropWhile fun c => c == ' ' || c == '\n' || c == '\t' || c == '\r'

/-- The decimal digits that lead a text, and what follows them. -/
def takeDigits (s : Text) : Text × Text := (s.takeWhile Char.isDigit, s.dropWhile Char.isDigit)

/-! ## Numbers -/

/-- The largest significand. -/
def maxSignificand : Nat := Nat.pow 2 64 - 1

/-- A significand with a number of places: digits after the point, or digits dropped before it. -/
structure Significand where
  /-- The digits read so far. -/
  value : Nat
  /-- The number of digits read or dropped. -/
  places : Nat
  /-- Whether a digit has been dropped. -/
  full : Bool

namespace Significand

/-- The significand with one digit more, unless it does not fit. -/
def push? (value : Nat) (digit : Char) : Option Nat :=
  let next := value * 10 + (digit.toNat - '0'.toNat)
  if next ≤ maxSignificand then some next else none

/-- Reads digits before the point; `places` counts the digits dropped. -/
def pushWhole (s : Significand) (digit : Char) : Significand :=
  if s.full then { s with places := s.places + 1 }
  else
    match push? s.value digit with
    | some value => { s with value }
    | none => { s with places := 1, full := true }

/-- Reads digits after the point; `places` counts the digits read. -/
def pushFraction (s : Significand) (digit : Char) : Significand :=
  if s.full then s
  else
    match push? s.value digit with
    | some value => { s with value, places := s.places + 1 }
    | none => { s with full := true }

end Significand

/-- `10 ^ n` as a floating-point number. -/
def powerOfTen (n : Nat) : Float := Number.ofDecimal 1 n

/-- `significand * 10 ^ exponent`, if it is finite. Division by more than `10 ^ 308` is done in
steps. -/
def scaledFloat? (significand : Nat) (exponent : Int) : Option Float :=
  let f := Number.ofNat significand
  if 0 ≤ exponent then
    if exponent ≤ 308 then
      let product := f * powerOfTen exponent.toNat
      if product < Number.infinity then some product else none
    else if significand = 0 then some f else none
  else
    let steps := ((-exponent).toNat - 1) / 308
    let f := Nat.repeat (· / powerOfTen 308) (min steps 3) f
    some (f / powerOfTen ((-exponent).toNat - 308 * steps))

/-- What stands after `e`: the exponent's sign and digits. -/
def readExponent? (s : Text) : Option (Bool × Nat × Text) :=
  let (negative, s) :=
    match s with
    | '+' :: rest => (false, rest)
    | '-' :: rest => (true, rest)
    | s => (false, s)
  match takeDigits s with
  | ([], _) => none
  | (digits, rest) => some (negative, Text.toNat digits, rest)

/-- A floating-point number from its sign, significand, and places, with the exponent that may
follow. -/
def finishFloat? (negative : Bool) (significand : Nat) (exponent : Int) (s : Text) :
    Option (Json × Text) := do
  let sign (f : Float) : Json := .float (if negative then -f else f)
  match s with
  | 'e' :: rest | 'E' :: rest =>
    let (down, power, rest) ← readExponent? rest
    if power < Nat.pow 2 31 then
      let f ← scaledFloat? significand (exponent + if down then -(power : Int) else power)
      return (sign f, rest)
    else if significand ≠ 0 ∧ !down then none
    else return (sign 0.0, rest)
  | s =>
    let f ← scaledFloat? significand exponent
    return (sign f, s)

/-- A whole number without fraction and exponent. -/
def wholeNumber (negative : Bool) (n : Nat) : Json :=
  if negative then
    if 0 < n ∧ n ≤ Nat.pow 2 63 then .integer (Int64.ofInt (-n)) else .float (-(Number.ofNat n))
  else if n < Nat.pow 2 63 then .integer (Int64.ofInt n)
  else .float (Number.ofNat n)

/-- A number after its sign. -/
def readUnsigned? (negative : Bool) (s : Text) : Option (Json × Text) :=
  match takeDigits s with
  | ([], _) => none
  | (digits, rest) =>
    if digits.length ≠ 1 ∧ digits.head? = some '0' then none
    else
      let whole := digits.foldl Significand.pushWhole ⟨0, 0, false⟩
      match rest with
      | '.' :: after =>
        match takeDigits after with
        | ([], _) => none
        | (fraction, rest) =>
          let all := fraction.foldl Significand.pushFraction ⟨whole.value, 0, false⟩
          finishFloat? negative all.value ((whole.places : Int) - all.places) rest
      | 'e' :: _ | 'E' :: _ => finishFloat? negative whole.value whole.places rest
      | rest =>
        if whole.full then finishFloat? negative whole.value whole.places rest
        else some (wholeNumber negative whole.value, rest)

/-! ## Strings -/

/-- Four hexadecimal digits and what follows them. -/
def readHex? : Text → Option (Nat × Text)
  | a :: b :: c :: d :: rest => do
    let a ← Text.hexValue? a
    let b ← Text.hexValue? b
    let c ← Text.hexValue? c
    let d ← Text.hexValue? d
    return (((a * 16 + b) * 16 + c) * 16 + d, rest)
  | _ => none

/-- The character of an escape after `\u`; two escapes make up one character outside the basic
plane. -/
def readUnicode? (s : Text) : Option (Char × Text) := do
  let (high, rest) ← readHex? s
  if 0xD800 ≤ high ∧ high < 0xDC00 then
    match rest with
    | '\\' :: 'u' :: rest =>
      let (low, rest) ← readHex? rest
      if 0xDC00 ≤ low ∧ low < 0xE000 then
        return (Char.ofNat (0x10000 + (high - 0xD800) * 0x400 + (low - 0xDC00)), rest)
      else none
    | _ => none
  else if 0xDC00 ≤ high ∧ high < 0xE000 then none
  else return (Char.ofNat high, rest)

/-- The character of an escape after the backslash. -/
def readEscape? : Text → Option (Char × Text)
  | '"' :: rest => some ('"', rest)
  | '\\' :: rest => some ('\\', rest)
  | '/' :: rest => some ('/', rest)
  | 'b' :: rest => some ('\x08', rest)
  | 'f' :: rest => some ('\x0c', rest)
  | 'n' :: rest => some ('\n', rest)
  | 'r' :: rest => some ('\r', rest)
  | 't' :: rest => some ('\t', rest)
  | 'u' :: rest => readUnicode? rest
  | _ => none

/-- The rest of a string after its opening quote, of at most `fuel` characters. -/
def readString? (fuel : Nat) (read : Text) (s : Text) : Option (Text × Text) :=
  match fuel with
  | 0 => none
  | fuel + 1 =>
    match s with
    | [] => none
    | '"' :: rest => some (read.reverse, rest)
    | '\\' :: rest => do
      let (c, rest) ← readEscape? rest
      readString? fuel (c :: read) rest
    | c :: rest => if c.toNat < 0x20 then none else readString? fuel (c :: read) rest

/-- A string after its opening quote. -/
def stringBody? (s : Text) : Option (Text × Text) := readString? (s.length + 1) [] s

/-! ## Documents -/

/-- The number of levels that arrays and objects may be nested. -/
def maxDepth : Nat := 127

mutual

/-- A document that leads a text, of at most `depth` levels. -/
def readValue? (fuel depth : Nat) (s : Text) : Option (Json × Text) :=
  match fuel with
  | 0 => none
  | fuel + 1 =>
    match skipSpace s with
    | 'n' :: 'u' :: 'l' :: 'l' :: rest => some (.null, rest)
    | 't' :: 'r' :: 'u' :: 'e' :: rest => some (.boolean true, rest)
    | 'f' :: 'a' :: 'l' :: 's' :: 'e' :: rest => some (.boolean false, rest)
    | '"' :: rest => (stringBody? rest).map fun (s, rest) => (.string s, rest)
    | '-' :: rest => readUnsigned? true rest
    | '[' :: rest =>
      if depth = 0 then none
      else
        match skipSpace rest with
        | ']' :: rest => some (.array [], rest)
        | rest =>
          (readItems? fuel (depth - 1) [] rest).map fun (items, rest) => (.array items, rest)
    | '{' :: rest =>
      if depth = 0 then none
      else
        match skipSpace rest with
        | '}' :: rest => some (.object [], rest)
        | rest =>
          (readFields? fuel (depth - 1) [] rest).map fun (fields, rest) => (.object fields, rest)
    | rest => readUnsigned? false rest

/-- The elements of an array up to its end, after those already read. -/
def readItems? (fuel depth : Nat) (read : List Json) (s : Text) : Option (List Json × Text) :=
  match fuel with
  | 0 => none
  | fuel + 1 =>
    match readValue? fuel depth s with
    | none => none
    | some (item, rest) =>
      match skipSpace rest with
      | ',' :: rest => readItems? fuel depth (item :: read) rest
      | ']' :: rest => some ((item :: read).reverse, rest)
      | _ => none

/-- The fields of an object up to its end, after those already read. -/
def readFields? (fuel depth : Nat) (read : List (Text × Json)) (s : Text) :
    Option (List (Text × Json) × Text) :=
  match fuel with
  | 0 => none
  | fuel + 1 =>
    match skipSpace s with
    | '"' :: rest =>
      match stringBody? rest with
      | none => none
      | some (name, rest) =>
        match skipSpace rest with
        | ':' :: rest =>
          match readValue? fuel depth rest with
          | none => none
          | some (value, rest) =>
            match skipSpace rest with
            | ',' :: rest => readFields? fuel depth ((name, value) :: read) rest
            | '}' :: rest => some (((name, value) :: read).reverse, rest)
            | _ => none
        | _ => none
    | _ => none

end

/-- The document that a text holds, if it is JSON. Every step reads at least one character of the
text, or follows one that did. -/
def read? (s : Text) : Option Json := do
  let (json, rest) ← readValue? (2 * s.length + 2) maxDepth s
  if (skipSpace rest).isEmpty then some json else none

end DynamicSql.Json
