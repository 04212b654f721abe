import DynamicSql.Delimited
import Mathlib.Tactic.Lemma

/-!
# Divisions

A text divided at its tokens is its literal text up to the first token, and for each token the
content with the literal text behind it. Two literal segments that stand side by side, as an
escape leaves them, are one literal text here, so divisions of concatenated texts are
concatenated divisions.

Everything a scan does can be read off the division: the contents are the tokens (`contents_division`),
and the result of a scan is the division with its contents replaced (`scan_eq`).
-/

namespace DynamicSql

/-- A text divided at its tokens. -/
structure Division where
  /-- The literal text before the first token. -/
  lead : Text
  /-- The content of each token, with the literal text behind it. -/
  pieces : List (Text × Text)
  deriving DecidableEq

namespace Division

/-! ## Concatenation -/

/-- A text without tokens. -/
def literal (s : Text) : Division := ⟨s, []⟩

/-- One token and nothing around it. -/
def token (content : Text) : Division := ⟨[], [(content, [])]⟩

/-- Literal text and tokens, followed by a division. -/
def followed (lead : Text) : List (Text × Text) → Division → Division
  | [], e => ⟨lead ++ e.lead, e.pieces⟩
  | (content, behind) :: rest, e =>
    ⟨lead, (content, (followed behind rest e).lead) :: (followed behind rest e).pieces⟩

/-- One division behind the other; the literal texts that meet become one. -/
instance : Append Division := ⟨fun d e => followed d.lead d.pieces e⟩

@[simp] lemma mk_nil_append (lead : Text) (e : Division) :
    (⟨lead, []⟩ : Division) ++ e = ⟨lead ++ e.lead, e.pieces⟩ := rfl

@[simp] lemma mk_cons_append (lead content behind : Text) (rest : List (Text × Text))
    (e : Division) :
    (⟨lead, (content, behind) :: rest⟩ : Division) ++ e =
      ⟨lead, (content, ((⟨behind, rest⟩ : Division) ++ e).lead) ::
        ((⟨behind, rest⟩ : Division) ++ e).pieces⟩ := rfl

lemma literal_append (s : Text) (e : Division) : literal s ++ e = ⟨s ++ e.lead, e.pieces⟩ := rfl

lemma token_append (content : Text) (e : Division) :
    token content ++ e = ⟨[], (content, e.lead) :: e.pieces⟩ := rfl

@[simp] lemma literal_nil_append (e : Division) : literal [] ++ e = e := rfl

@[simp] lemma append_literal_nil (d : Division) : d ++ literal [] = d := by
  obtain ⟨lead, pieces⟩ := d
  induction pieces generalizing lead with
  | nil => simp [literal]
  | cons piece rest ih => rw [mk_cons_append, ih]

/-- Concatenation of divisions is associative. -/
theorem append_assoc (d e f : Division) : d ++ e ++ f = d ++ (e ++ f) := by
  obtain ⟨lead, pieces⟩ := d
  induction pieces generalizing lead with
  | nil =>
      obtain ⟨lead', _ | ⟨⟨content, behind⟩, rest⟩⟩ := e
      · simp
      · rfl
  | cons piece rest ih =>
      obtain ⟨content, behind⟩ := piece
      rw [mk_cons_append lead content behind rest (e ++ f), ← ih behind]
      rfl

/-! ## Contents and replacement -/

/-- The contents of the tokens, in order. -/
def contents (d : Division) : List Text := d.pieces.map (·.1)

/-- The text in which the tokens are replaced, one by one, by the given texts. -/
def fill (d : Division) (replacements : List Text) : Text :=
  d.lead ++ (List.zipWith (fun r piece => r ++ piece.2) replacements d.pieces).flatten

/-- The division with every content changed. -/
def mapContents (f : Text → Text) (d : Division) : Division :=
  ⟨d.lead, d.pieces.map fun piece => (f piece.1, piece.2)⟩

@[simp] lemma contents_literal (s : Text) : (literal s).contents = [] := rfl

@[simp] lemma contents_mk_cons (lead content behind : Text) (rest : List (Text × Text)) :
    (⟨lead, (content, behind) :: rest⟩ : Division).contents =
      content :: (⟨behind, rest⟩ : Division).contents := rfl

/-- The contents of a concatenation. -/
@[simp] lemma contents_append (d e : Division) : (d ++ e).contents = d.contents ++ e.contents := by
  obtain ⟨lead, pieces⟩ := d
  induction pieces generalizing lead with
  | nil => simp [contents]
  | cons piece rest ih =>
      have h := ih piece.2
      simp only [contents] at h ⊢
      rw [mk_cons_append]
      simp [h]

@[simp] lemma contents_mapContents (f : Text → Text) (d : Division) :
    (d.mapContents f).contents = d.contents.map f := by
  simp [mapContents, contents]

/-- Contents that are changed twice. -/
lemma mapContents_mapContents (f g : Text → Text) (d : Division) :
    (d.mapContents f).mapContents g = d.mapContents fun content => g (f content) := by
  simp [mapContents]

@[simp] lemma fill_mk_nil (lead : Text) (replacements : List Text) :
    (⟨lead, []⟩ : Division).fill replacements = lead := by
  simp [fill]

@[simp] lemma fill_mk_cons (lead content behind : Text) (rest : List (Text × Text)) (r : Text)
    (replacements : List Text) :
    (⟨lead, (content, behind) :: rest⟩ : Division).fill (r :: replacements) =
      lead ++ r ++ (⟨behind, rest⟩ : Division).fill replacements := by
  simp [fill]

lemma fill_literal_append (s : Text) (d : Division) (replacements : List Text) :
    (literal s ++ d).fill replacements = s ++ d.fill replacements := by
  simp [literal_append, fill]

lemma fill_token_append (content r : Text) (d : Division) (replacements : List Text) :
    (token content ++ d).fill (r :: replacements) = r ++ d.fill replacements := by
  rw [token_append, fill_mk_cons, List.nil_append]

/-- What replaces the tokens of a concatenation is divided between its parts. -/
theorem fill_append (d e : Division) {replacements : List Text}
    (hlen : replacements.length = d.contents.length) (others : List Text) :
    (d ++ e).fill (replacements ++ others) = d.fill replacements ++ e.fill others := by
  obtain ⟨lead, pieces⟩ := d
  induction pieces generalizing lead replacements with
  | nil =>
      obtain rfl : replacements = [] := List.length_eq_zero_iff.1 (by simpa [contents] using hlen)
      simp [fill]
  | cons piece rest ih =>
      cases replacements with
      | nil => simp [contents] at hlen
      | cons r replacements =>
          have hlen' : replacements.length = (⟨piece.2, rest⟩ : Division).contents.length := by
            simpa [contents] using hlen
          obtain ⟨content, behind⟩ := piece
          rw [mk_cons_append, List.cons_append, fill_mk_cons, fill_mk_cons]
          change _ ++ (⟨behind, rest⟩ ++ e : Division).fill _ = _
          rw [ih behind hlen', ← List.append_assoc]

/-- Only the number of tokens and the literal text matter for a replacement. -/
lemma fill_mapContents (f : Text → Text) (d : Division) (replacements : List Text) :
    (d.mapContents f).fill replacements = d.fill replacements := by
  simp [mapContents, fill, List.zipWith_map_right]

/-! ## The division of segments -/

/-- The division that a list of segments makes up. -/
def ofSegments : List Segment → Division
  | [] => literal []
  | .literal s :: rest => literal s ++ ofSegments rest
  | .token content :: rest => token content ++ ofSegments rest

/-- The contents of the segments are those of the division. -/
lemma contents_ofSegments (segments : List Segment) :
    (ofSegments segments).contents = segments.filterMap Delimiters.Segment.content? := by
  induction segments with
  | nil => rfl
  | cons segment rest ih =>
      cases segment with
      | literal s => rw [ofSegments, contents_append, ih]; rfl
      | token content => rw [ofSegments, contents_append, ih]; rfl

end Division

namespace Delimiters

variable (d : Delimiters)

/-- The division of a text. -/
def division (s : Text) : Division := Division.ofSegments (d.segments s)

/-- The contents of the division are the tokens of the text. -/
theorem contents_division (s : Text) : (d.division s).contents = d.tokens s :=
  Division.contents_ofSegments (d.segments s)

lemma contents_literal_cons (s : Text) (rest : List Segment) :
    (Segment.literal s :: rest).filterMap Segment.content? = rest.filterMap Segment.content? := rfl

lemma contents_token_cons (content : Text) (rest : List Segment) :
    (Segment.token content :: rest).filterMap Segment.content? =
      content :: rest.filterMap Segment.content? := rfl

/-- The replacement of the contents of segments, one after the other. -/
lemma render_eq {ε : Type} (replace : Text → Except ε Text) (segments : List Segment) :
    render replace segments =
      ((segments.filterMap Segment.content?).mapM replace).map (Division.ofSegments segments).fill := by
  induction segments with
  | nil => rfl
  | cons segment rest ih =>
      cases segment with
      | literal s =>
          rw [render, ih, contents_literal_cons, Division.ofSegments]
          cases (rest.filterMap Segment.content?).mapM replace with
          | error e => rfl
          | ok texts => simp [Except.map, Division.fill_literal_append]
      | token content =>
          rw [render, ih, contents_token_cons, Division.ofSegments, List.mapM_cons]
          cases replace content with
          | error e => rfl
          | ok text =>
              cases (rest.filterMap Segment.content?).mapM replace with
              | error e => rfl
              | ok texts => simp [Except.map, bind, Except.bind, pure, Except.pure,
                  Division.fill_token_append]

/-- **A scan is read off the division**: it replaces the contents in order, the first that has no
replacement ends it, and the literal text stays as it is. -/
theorem scan_eq {ε : Type} (replace : Text → Except ε Text) (s : Text) :
    d.scan replace s = ((d.tokens s).mapM replace).map (d.division s).fill :=
  render_eq replace (d.segments s)

/-- Replacing every content is filling in the replacements. -/
theorem replaceAll_eq (replace : Text → Text) (s : Text) :
    d.replaceAll replace s = (d.division s).fill ((d.tokens s).map replace) := by
  unfold replaceAll tokens division
  induction d.segments s with
  | nil => rfl
  | cons segment rest ih =>
      cases segment with
      | literal s =>
          rw [contents_literal_cons, Division.ofSegments, Division.fill_literal_append, ← ih]
          rfl
      | token content =>
          rw [contents_token_cons, Division.ofSegments, List.map_cons,
            Division.fill_token_append, ← ih]
          rfl

end Delimiters

end DynamicSql
