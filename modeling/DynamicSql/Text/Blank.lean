import DynamicSql.Text.Category

/-!
# White space

The twenty-five white-space characters of the Unicode standard, and the texts without them at
their ends.
-/

namespace DynamicSql.Text

/-- The ranges of white-space characters. -/
def whiteSpace : List (Nat × Nat) := [
  (0x9, 0xD), (0x20, 0x20), (0x85, 0x85), (0xA0, 0xA0), (0x1680, 0x1680), (0x2000, 0x200A),
  (0x2028, 0x2029), (0x202F, 0x202F), (0x205F, 0x205F), (0x3000, 0x3000)]

/-- Whether a character is white space. -/
def isBlank (c : Char) : Bool := inRanges c.toNat whiteSpace

/-- The text without the white space that leads it. -/
def trimStart (s : Text) : Text := s.dropWhile isBlank

/-- The text without the white space that ends it. -/
def trimEnd (s : Text) : Text := (s.reverse.dropWhile isBlank).reverse

/-- The text without the white space at either end. -/
def trim (s : Text) : Text := trimEnd (trimStart s)

/-- Whether a text holds white space only. -/
def allBlank (s : Text) : Bool := s.all isBlank

end DynamicSql.Text
