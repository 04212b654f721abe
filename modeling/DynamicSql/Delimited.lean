import DynamicSql.Text.Basic

/-!
# Delimited tokens

SQL text carries tokens such as `${name}` and `#{id}`. `Delimiters.segments` divides a text into
literal pieces and the contents of its tokens:

* a backslash directly before an opening makes the opening literal, and is dropped;
* a backslash directly before a closing inside a token makes the closing part of the content, and
  is dropped;
* an opening whose token does not end is literal, and so is everything after it.

A scan replaces each token by a text computed from its content and keeps the literal pieces; the
first content without a replacement ends it.
-/

namespace DynamicSql

/-- What opens and what closes a token. -/
structure Delimiters where
  /-- The text before the content. -/
  opening : Text
  /-- The text after the content. -/
  closing : Text
  /-- A token begins with something. -/
  opening_ne_nil : opening ≠ []

/-- A piece of a divided text. -/
inductive Segment where
  /-- Text outside tokens. -/
  | literal (s : Text)
  /-- The content of a token. -/
  | token (content : Text)
  deriving DecidableEq

/-- The text without a backslash at its end, if it has one. -/
def Text.unescaped? (s : Text) : Option Text :=
  if s.getLast? = some '\\' then some s.dropLast else none

namespace Delimiters

/-- The delimiters of substitutions, `${…}`. -/
def substitution : Delimiters := ⟨['$', '{'], ['}'], by decide⟩

/-- The delimiters of placeholders, `#{…}`. -/
def placeholder : Delimiters := ⟨['#', '{'], ['}'], by decide⟩

/-! ## Dividing a text -/

/-- The content of a token whose opening has been read, and what follows its closing. A closing
behind a backslash belongs to the content. -/
def content? (d : Delimiters) (s : Text) : Option (Text × Text) :=
  match _h : Text.cut? d.closing s with
  | none => none
  | some (piece, rest) =>
    match _h' : piece.unescaped? with
    | none => some (piece, rest)
    | some kept => (d.content? rest).map fun (more, after) => (kept ++ d.closing ++ more, after)
termination_by s.length
decreasing_by
  have := Text.length_of_cut? _h
  have : piece ≠ [] := by rintro rfl; simp [Text.unescaped?] at _h'
  have := List.length_pos_iff.2 this
  omega

theorem length_of_content? {d : Delimiters} {s content rest : Text}
    (h : d.content? s = some (content, rest)) : rest.length ≤ s.length := by
  fun_induction content? d s generalizing content with
  | case1 => cases h
  | case2 s piece rest' hcut hesc =>
    cases h
    have := Text.length_of_cut? hcut
    omega
  | case3 s piece rest' hcut kept hesc ih =>
    obtain ⟨⟨more, after⟩, hmore, heq⟩ := Option.map_eq_some_iff.1 h
    cases heq
    have := ih hmore
    have := Text.length_of_cut? hcut
    omega

/-- The pieces of a text, in order. -/
def segments (d : Delimiters) (s : Text) : List Segment :=
  match _h : Text.cut? d.opening s with
  | none => [.literal s]
  | some (before, rest) =>
    match before.unescaped? with
    | some kept => .literal (kept ++ d.opening) :: d.segments rest
    | none =>
      match _h' : d.content? rest with
      | none => [.literal s]
      | some (content, after) => .literal before :: .token content :: d.segments after
termination_by s.length
decreasing_by
  all_goals
    have := Text.length_of_cut? _h
    have := List.length_pos_iff.2 d.opening_ne_nil
  · omega
  · have := length_of_content? _h'
    omega

/-! ## Scanning -/

/-- The text of a list of pieces in which every content is replaced; the first content without a
replacement is the failure of the whole. -/
def render {ε : Type} (replace : Text → Except ε Text) : List Segment → Except ε Text
  | [] => .ok []
  | .literal s :: rest => (render replace rest).map (s ++ ·)
  | .token content :: rest =>
    match replace content with
    | .error e => .error e
    | .ok text => (render replace rest).map (text ++ ·)

/-- The text with the content of every token replaced, delimiters included. -/
def scan {ε : Type} (d : Delimiters) (replace : Text → Except ε Text) (s : Text) :
    Except ε Text :=
  render replace (d.segments s)

/-- The text of a piece in which a content is replaced by one that always exists. -/
def Segment.text (replace : Text → Text) : Segment → Text
  | .literal s => s
  | .token content => replace content

/-- The text with the content of every token replaced, delimiters included. -/
def replaceAll (d : Delimiters) (replace : Text → Text) (s : Text) : Text :=
  (d.segments s).flatMap (Segment.text replace)

/-- The content of a piece that is a token. -/
def Segment.content? : Segment → Option Text
  | .literal _ => none
  | .token content => some content

/-- The contents of the tokens, in order. -/
def tokens (d : Delimiters) (s : Text) : List Text := (d.segments s).filterMap Segment.content?

/-- Whether the text has a token. -/
def hasToken (d : Delimiters) (s : Text) : Bool := !(d.tokens s).isEmpty

/-- The content between the delimiters. -/
def wrap (d : Delimiters) (content : Text) : Text := d.opening ++ content ++ d.closing

/-- A scan in which every content has a replacement succeeds with the replaced text. -/
theorem scan_ok {ε : Type} (d : Delimiters) (replace : Text → Text) (s : Text) :
    d.scan (ε := ε) (fun content => .ok (replace content)) s = .ok (d.replaceAll replace s) := by
  unfold scan replaceAll
  induction d.segments s with
  | nil => rfl
  | cons segment rest ih => cases segment <;> simp [render, ih, Except.map, Segment.text]

end Delimiters

end DynamicSql
