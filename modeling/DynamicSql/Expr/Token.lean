import DynamicSql.Number.Layout
import DynamicSql.Text.Quoted

/-!
# Tokens of the expression language

Several spellings may stand for one token: an operator may be written as a word or with symbols.
`Token.describe` names a token in messages.
-/

namespace DynamicSql

/-- A token of the expression language. -/
inductive Token where
  /-- A number with a point. -/
  | float (x : Float)
  /-- A whole number. -/
  | integer (n : Int64)
  /-- A string, without its quotes and escapes. -/
  | string (s : Text)
  /-- `true` or `false`. -/
  | boolean (b : Bool)
  /-- `null`. -/
  | null
  /-- A name that is no keyword. -/
  | name (s : Text)
  /-- `==` or `eq`. -/
  | equal
  /-- `!=` or `neq`. -/
  | notEqual
  /-- `<` or `lt`. -/
  | less
  /-- `>` or `gt`. -/
  | greater
  /-- `<=` or `lte`. -/
  | lessEqual
  /-- `>=` or `gte`. -/
  | greaterEqual
  /-- `+`. -/
  | plus
  /-- `-`. -/
  | minus
  /-- `*`. -/
  | star
  /-- `/`. -/
  | slash
  /-- `%`. -/
  | percent
  /-- `&&` or `and`. -/
  | and
  /-- `||` or `or`. -/
  | or
  /-- `!` or `not`. -/
  | not
  /-- `[`. -/
  | leftBracket
  /-- `]`. -/
  | rightBracket
  /-- `(`. -/
  | leftParen
  /-- `)`. -/
  | rightParen
  /-- `.`. -/
  | dot
  /-- `,`. -/
  | comma

namespace Token

/-- The kind of token, as messages name it. -/
def kind : Token → String
  | float _ => "Float"
  | integer _ => "Integer"
  | string _ => "String"
  | boolean _ => "Boolean"
  | null => "Null"
  | name _ => "Identifier"
  | equal => "EqEq"
  | notEqual => "NotEq"
  | less => "Lt"
  | greater => "Gt"
  | lessEqual => "LtEq"
  | greaterEqual => "GtEq"
  | plus => "Plus"
  | minus => "Minus"
  | star => "Star"
  | slash => "Slash"
  | percent => "Percent"
  | and => "And"
  | or => "Or"
  | not => "Not"
  | leftBracket => "LBracket"
  | rightBracket => "RBracket"
  | leftParen => "LParen"
  | rightParen => "RParen"
  | dot => "Dot"
  | comma => "Comma"

/-- What a token says besides its kind, as messages show it. -/
def content? : Token → Option Text
  | float x => some (Number.Layout.message.write x)
  | integer n => some (Text.ofInt n.toInt)
  | string s => some (Text.quoted s)
  | boolean true => some "true".toList
  | boolean false => some "false".toList
  | name s => some (Text.quoted s)
  | _ => none

/-- The token as messages show it: its kind, with its content in parentheses. -/
def describe (t : Token) : String :=
  match t.content? with
  | none => t.kind
  | some content => s!"{t.kind}({String.ofList content})"

end Token

end DynamicSql
