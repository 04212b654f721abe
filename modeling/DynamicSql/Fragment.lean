import DynamicSql.Text.Blank

/-!
# Joining fragments

SQL text is written in fragments. Fragments are joined by one space, except where white space
already stands at the seam, behind `(` or `,`, and before `)` or `,`. Empty fragments count for
nothing.
-/

namespace DynamicSql.Fragment

/-- Whether two characters at a seam stand without a space between them. -/
def glued (last first : Char) : Bool :=
  Text.isBlank last || Text.isBlank first || last == '(' || last == ',' || first == ')' ||
    first == ','

/-- What is put between two texts that are joined. -/
def seam (buffer fragment : Text) : Text :=
  match buffer.getLast?, fragment.head? with
  | some last, some first => if glued last first then [] else [' ']
  | _, _ => []

/-- The text with one fragment more. -/
def append (buffer fragment : Text) : Text := buffer ++ seam buffer fragment ++ fragment

/-- The text with several fragments more. -/
def appendAll (buffer : Text) (fragments : List Text) : Text := fragments.foldl append buffer

/-- The fragments as one text. -/
def join (fragments : List Text) : Text := appendAll [] fragments

@[simp] theorem append_nil (buffer : Text) : append buffer [] = buffer := by
  cases h : buffer.getLast? <;> simp [append, seam, h]

@[simp] theorem nil_append (fragment : Text) : append [] fragment = fragment := by
  simp [append, seam]

end DynamicSql.Fragment
