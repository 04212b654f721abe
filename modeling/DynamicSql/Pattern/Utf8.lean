/-!
# Characters as bytes

In UTF-8 a character is written with one to four bytes, and longer sequences stand for larger
code points. The characters of a range are those of a few sequences of byte ranges:
`byteSequences` cuts the range into pieces, in ascending order, until in every piece each byte
runs through its range whatever the others are.
-/

namespace DynamicSql.Pattern

/-- The bytes of a code point. -/
def utf8Bytes (code : Nat) : List Nat :=
  if code < 0x80 then [code]
  else if code < 0x800 then [0xC0 + code / 0x40, 0x80 + code % 0x40]
  else if code < 0x10000 then
    [0xE0 + code / 0x1000, 0x80 + code / 0x40 % 0x40, 0x80 + code % 0x40]
  else
    [0xF0 + code / 0x40000, 0x80 + code / 0x1000 % 0x40, 0x80 + code / 0x40 % 0x40,
      0x80 + code % 0x40]

/-- A range cut in two where a part of it lies below `bound`. -/
def cutAt (bound : Nat) : Nat × Nat → List (Nat × Nat)
  | (first, last) =>
    if first < bound ∧ bound ≤ last then [(first, bound - 1), (bound, last)] else [(first, last)]

/-- A range cut into the end of a block of the given size, whole blocks, and the start of a block,
as far as it has them; a range within one block stays whole. -/
def cutIntoBlocks (block : Nat) : Nat × Nat → List (Nat × Nat)
  | (first, last) =>
    if first / block = last / block then [(first, last)]
    else
      let (head, first) :=
        if first % block = 0 then ([], first)
        else
          let stop := (first / block + 1) * block
          ([(first, stop - 1)], stop)
      let (tail, stop) :=
        if last % block = block - 1 then ([], last + 1)
        else
          let start := last / block * block
          ([(start, last)], start)
      head ++ (if first < stop then [(first, stop - 1)] else []) ++ tail

/-- The sequences of byte ranges that the characters of a range are written with. -/
def byteSequences (range : Nat × Nat) : List (List (Nat × Nat)) :=
  let sameLength := (((cutAt 0x80 range).flatMap (cutAt 0x800)).flatMap (cutAt 0x10000))
  let pieces := sameLength.flatMap fun piece =>
    if piece.2 < 0x80 then [piece]
    else
      ((cutIntoBlocks 0x40 piece).flatMap (cutIntoBlocks 0x1000)).flatMap (cutIntoBlocks 0x40000)
  pieces.map fun (first, last) => (utf8Bytes first).zip (utf8Bytes last)

end DynamicSql.Pattern
