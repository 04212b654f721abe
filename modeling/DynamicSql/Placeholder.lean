import DynamicSql.Delimited
import DynamicSql.Text.Blank
import DynamicSql.Text.Letter

/-!
# Placeholders

The content of a `#{…}` placeholder names what is to be passed to the database and how: a
property, which is an expression (in parentheses if it holds commas or colons), then optionally a
JDBC type after a colon, then attributes `name=value` separated by commas. The attributes are
passed on as they are written.
-/

namespace DynamicSql

/-- The direction of a parameter. -/
inductive Direction where
  /-- To the database. -/
  | input
  /-- From the database. -/
  | output
  /-- Both. -/
  | inout
  deriving DecidableEq

namespace Direction

/-- The name of a direction. -/
def name : Direction → String
  | input => "IN"
  | output => "OUT"
  | inout => "INOUT"

/-- The direction with a name, in any case. -/
def ofText? (s : Text) : Option Direction :=
  let upper := Text.upperAscii s
  [input, output, inout].find? fun d => d.name.toList == upper

end Direction

/-- What a placeholder says. -/
structure Placeholder where
  /-- The expression of the value. -/
  property : Text
  /-- The direction of the parameter. -/
  direction : Direction := .input
  /-- The attribute `javaType`. -/
  javaType : Option Text := none
  /-- The attribute `jdbcType`, or the type after the colon. -/
  jdbcType : Option Text := none
  /-- The attribute `jdbcTypeName`. -/
  jdbcTypeName : Option Text := none
  /-- The attribute `typeHandler`. -/
  typeHandler : Option Text := none
  /-- The attribute `numericScale`. -/
  numericScale : Option Nat := none
  /-- The attribute `resultMap`. -/
  resultMap : Option Text := none
  deriving DecidableEq

/-- Why a content is no placeholder. -/
inductive PlaceholderFault where
  /-- The parenthesis before the property is not closed. -/
  | unbalanced
  /-- There is no property. -/
  | missingProperty
  /-- There is no type after the colon. -/
  | missingType
  /-- Something stands where attributes should begin. -/
  | unexpected (s : Text)
  /-- An attribute has no equals sign. -/
  | noValue (pair : Text)
  /-- The value of `mode` is no direction. -/
  | unknownMode (value : Text)
  /-- The value of `numericScale` is no number. -/
  | invalidScale (value : Text)
  /-- There is no such attribute. -/
  | unknownAttribute (name : Text)
  deriving DecidableEq

/-- The text of the fault. -/
def PlaceholderFault.message : PlaceholderFault → String
  | unbalanced => "unbalanced parentheses in expression"
  | missingProperty => "missing property"
  | missingType => "missing jdbc type after ':'"
  | unexpected s => s!"unexpected '{String.ofList s}'"
  | noValue a => s!"attribute '{String.ofList a}' has no value"
  | unknownMode v => s!"unknown mode '{String.ofList v}'"
  | invalidScale v => s!"invalid numericScale '{String.ofList v}'"
  | unknownAttribute n => s!"unknown attribute '{String.ofList n}'"

namespace Placeholder

/-! ## The property -/

/-- What stands before the parenthesis that closes the open ones, of which there are `depth + 1`,
and what follows it. -/
def matchingParen? (depth : Nat) : Text → Option (Text × Text)
  | [] => none
  | '(' :: rest => (matchingParen? (depth + 1) rest).map fun (inner, after) => ('(' :: inner, after)
  | ')' :: rest =>
    match depth with
    | 0 => some ([], rest)
    | depth + 1 => (matchingParen? depth rest).map fun (inner, after) => (')' :: inner, after)
  | c :: rest => (matchingParen? depth rest).map fun (inner, after) => (c :: inner, after)

/-- Whether a character ends a property without parentheses. -/
def endsProperty (c : Char) : Bool := c == ',' || c == ':'

/-- The property that leads a content, and what follows it. -/
def splitProperty (content : Text) : Except PlaceholderFault (Text × Text) :=
  let split :=
    match Text.trim content with
    | '(' :: inner =>
      (matchingParen? 0 inner).map fun (property, rest) => (property, Text.trimStart rest)
    | s => some (s.takeWhile (!endsProperty ·), s.dropWhile (!endsProperty ·))
  match split with
  | none => .error .unbalanced
  | some (property, rest) =>
    let property := Text.trim property
    if property.isEmpty then .error .missingProperty else .ok (property, rest)

/-- The type after a colon, if there is one, and what follows it. -/
def splitType : Text → Except PlaceholderFault (Option Text × Text)
  | ':' :: rest =>
    let type := Text.trim (rest.takeWhile (· != ','))
    if type.isEmpty then .error .missingType else .ok (some type, rest.dropWhile (· != ','))
  | rest => .ok (none, rest)

/-! ## Attributes -/

/-- The attributes as they are separated by commas, blank ones left out. -/
def splitAttributes : Text → Except PlaceholderFault (List Text)
  | ',' :: rest => .ok ((rest.splitOn ',').filter (!Text.allBlank ·))
  | rest => if Text.allBlank rest then .ok [] else .error (.unexpected (Text.trim rest))

/-- A number of 32 bits in decimal, perhaps after a plus sign. -/
def scale? (s : Text) : Option Nat :=
  let digits :=
    match s with
    | '+' :: digits => digits
    | digits => digits
  if !digits.isEmpty && digits.all Char.isDigit && Text.toNat digits < Nat.pow 2 32 then
    some (Text.toNat digits)
  else none

/-- The placeholder with an attribute set. -/
def setAttribute (p : Placeholder) (name value : Text) : Except PlaceholderFault Placeholder :=
  if name = "javaType".toList then .ok { p with javaType := some value }
  else if name = "jdbcType".toList then .ok { p with jdbcType := some value }
  else if name = "jdbcTypeName".toList then .ok { p with jdbcTypeName := some value }
  else if name = "typeHandler".toList then .ok { p with typeHandler := some value }
  else if name = "resultMap".toList then .ok { p with resultMap := some value }
  else if name = "mode".toList then
    match Direction.ofText? value with
    | some direction => .ok { p with direction }
    | none => .error (.unknownMode value)
  else if name = "numericScale".toList then
    match scale? value with
    | some scale => .ok { p with numericScale := some scale }
    | none => .error (.invalidScale value)
  else .error (.unknownAttribute name)

/-- The placeholder with an attribute set that is written `name=value`. -/
def readAttribute (p : Placeholder) (pair : Text) : Except PlaceholderFault Placeholder :=
  match Text.cut? ['='] pair with
  | none => .error (.noValue (Text.trim pair))
  | some (name, value) => p.setAttribute (Text.trim name) (Text.trim value)

/-- The placeholder with several attributes set, one after the other. -/
def readAttributes (p : Placeholder) : List Text → Except PlaceholderFault Placeholder
  | [] => .ok p
  | pair :: rest => (p.readAttribute pair).bind (·.readAttributes rest)

/-- What a content says. -/
def parse (content : Text) : Except PlaceholderFault Placeholder := do
  let (property, rest) ← splitProperty content
  let (jdbcType, rest) ← splitType rest
  let attributes ← splitAttributes rest
  readAttributes { property, jdbcType } attributes

/-- The name that leads the property. -/
def rootName (p : Placeholder) : Text :=
  p.property.takeWhile fun c => Text.isLetterOrNumeral c || c == '_' || c == '$'

end Placeholder

end DynamicSql
