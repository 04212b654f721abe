import DynamicSql.Pattern.Property.Category
import DynamicSql.Text.CaseFold

/-!
# Sets of characters without regard to case

Two characters are equal up to case if simple case folding maps them to the same representative.
Besides the two cases of a letter these are forms such as `K`, `k` and the Kelvin sign. A pattern
that ignores case has with every character all those equal to it.
-/

namespace DynamicSql.Pattern

/-- The code points of a run with their images, as far as patterns know both. -/
def knownPairs (run : Text.CaseRun) : List (Nat × Nat) :=
  let places := List.range ((run.last - run.first) / run.step + 1)
  let pairs := places.map fun i =>
    let code := run.first + i * run.step
    (code, ((code : Int) + run.offset).toNat)
  pairs.filter fun (code, image) =>
    !Property.later.contains code && !Property.later.contains image

/-- The characters that fold to another one, each with its representative. -/
def foldPairs : List (Nat × Nat) := Text.foldRuns.flatMap knownPairs

namespace CharSet

/-- The set of some code points. -/
def ofCodes (codes : List Nat) : CharSet := ofRanges (codes.map fun code => (code, code))

/-- The set together with all characters equal to one of its own up to case: first the
representatives are added, then whatever folds to one. -/
def folded (s : CharSet) : CharSet :=
  let images := foldPairs.filterMap fun (code, image) =>
    if s.contains code then some image else Option.none
  let withImages := s.union (ofCodes images)
  let sources := foldPairs.filterMap fun (code, image) =>
    if withImages.contains image then some code else Option.none
  withImages.union (ofCodes sources)

end CharSet

end DynamicSql.Pattern
