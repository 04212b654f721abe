import DynamicSql.Number.Nearest

/-!
# Scaled decimals

Arithmetic between a whole number and a fraction is done in decimals: a sign, a mantissa below
`2 ^ 96` and a scale of at most 28 places. Sums, differences, products and quotients that need
more are rounded, half to even, to the largest scale at which they fit; an operation whose result
fits at no scale has none.

`Decimal.ofFloat` is the conversion from a floating-point number. It keeps about sixteen digits,
and numbers smaller than `10 ^ -28` become zero.
-/

namespace DynamicSql.Number

/-- The number `mantissa / 10 ^ scale`, with a minus sign if `negative`. -/
structure Decimal where
  /-- Whether the number is below zero. -/
  negative : Bool
  /-- The digits, read as a whole number. -/
  mantissa : Nat
  /-- The number of digits after the point. -/
  scale : Nat
  deriving DecidableEq

namespace Decimal

/-- Mantissas are less than this. -/
def limit : Nat := Nat.pow 2 96

/-- The largest number of places. -/
def maxScale : Nat := 28

/-- Zero. -/
def zero : Decimal := ⟨false, 0, 0⟩

/-- `num / den`, a half going up. -/
def divHalfUp (num den : Nat) : Nat := (2 * num + den) / (2 * den)

/-! ## From a floating-point number

The number is `m * 2 ^ e`, and `2 ^ e` is `10 ^ e / 5 ^ e`. First the power of five is worked into
the mantissa, then the power of ten is brought between `-28` and `0`.
-/

/-- Multiplies by five `count` times, halving instead where nothing is lost or where the mantissa
would grow too large; every halving raises the power of ten. -/
def absorbFives : Nat → Nat → Int → Nat × Int
  | 0, m, e => (m, e)
  | count + 1, m, e =>
    if m % 2 = 0 then absorbFives count (m / 2) (e + 1)
    else if 5 * m < limit then absorbFives count (5 * m) e
    else absorbFives count (m / 2) (e + 1)

/-- Divides by five `count` times, doubling instead while there is room; every doubling lowers the
power of ten. -/
def releaseFives : Nat → Nat → Int → Option (Nat × Int)
  | 0, m, e => some (m, e)
  | count + 1, m, e =>
    if m < Nat.pow 2 95 then releaseFives count (2 * m) (e - 1)
    else if (count + 1 : Int) < 2 * e then none
    else releaseFives count (m / 5) e

/-- Drops `count` digits, each time rounding a half up; nothing is left once no digit is. -/
def dropDigits : Nat → Nat → Int → Nat × Int
  | 0, m, e => (m, e)
  | count + 1, m, e =>
    if m / 10 = 0 then (0, 0) else dropDigits count (divHalfUp m 10) (e + 1)

/-- Drops digits, at most `count` of them, while the mantissa has more than 52 bits. -/
def shorten : Nat → Nat → Nat × Nat
  | 0, m => (m, 0)
  | count + 1, m => if implicitBit ≤ m then shorten count (divHalfUp m 10) else (m, count + 1)

/-- Drops zeros at the end of the mantissa while the scale stays above `lowest`. -/
def dropZerosAbove (lowest : Nat) : Nat → Nat → Nat × Nat
  | 0, m => (m, 0)
  | scale + 1, m =>
    if lowest ≤ scale ∧ m % 10 = 0 then dropZerosAbove lowest scale (m / 10) else (m, scale + 1)

/-- The mantissa and scale of `m * 10 ^ e`, if it is not too large. -/
def settle? (m : Nat) (e : Int) : Option (Nat × Nat) :=
  if 0 ≤ e then
    let whole := m * Nat.pow 10 e.toNat
    if whole < limit then some (whole, 0) else none
  else
    let (m, e) := dropDigits (-e - maxScale).toNat m e
    let (m, scale) := shorten (-e).toNat m
    some (dropZerosAbove 0 scale m)

/-- The decimal nearest to a floating-point number, to about sixteen digits. -/
def ofFloat? (x : Float) : Option Decimal :=
  match Reading.ofFloat x with
  | .finite negative m e => do
    if m = 0 then return zero
    let (m, e) ← if e ≤ 0 then some (absorbFives (-e).toNat m e) else releaseFives e.toNat m e
    let (mantissa, scale) ← settle? m e
    return ⟨negative, mantissa, scale⟩
  | _ => none

/-! ## Arithmetic -/

/-- `num / (den * 10 ^ scale)` at the largest scale, at most `most`, at which it fits. -/
def fit? (negative : Bool) (num den scale : Nat) (most : Nat) : Option Decimal :=
  ((List.range (most + 1)).reverse.findSome? fun places =>
    let mantissa := divHalfEven (num * Nat.pow 10 places) (den * Nat.pow 10 scale)
    if mantissa < limit then some ⟨negative, mantissa, places⟩ else none)

/-- The decimal with the other sign. -/
def neg (a : Decimal) : Decimal := { a with negative := !a.negative }

/-- The mantissa with its sign, at a scale not below the decimal's own. -/
def signedAt (a : Decimal) (scale : Nat) : Int :=
  let mantissa := a.mantissa * Nat.pow 10 (scale - a.scale)
  if a.negative then -(mantissa : Int) else mantissa

/-- The sum. -/
def add? (a b : Decimal) : Option Decimal :=
  if a.mantissa = 0 then some b
  else if b.mantissa = 0 then some a
  else
    let scale := max a.scale b.scale
    let sum := a.signedAt scale + b.signedAt scale
    fit? (sum < 0) sum.natAbs 1 scale scale

/-- The difference. -/
def sub? (a b : Decimal) : Option Decimal := add? a b.neg

/-- The product. -/
def mul? (a b : Decimal) : Option Decimal :=
  if a.mantissa = 0 ∨ b.mantissa = 0 then some zero
  else
    let scale := a.scale + b.scale
    fit? (a.negative != b.negative) (a.mantissa * b.mantissa) 1 scale (min scale maxScale)

/-! ### Quotients

Division adds places in steps of up to nine, as many as the quotient has room for, until nothing
is left over or there is no room. Only then is it rounded. Zeros that this has put at the end
are dropped again, in groups of eight, four, two and one, each of the last three at most once.
-/

/-- A quotient in the making: the places after the point, of which there may be less than none,
the digits so far and what is left over. -/
structure Division where
  /-- The places after the point. -/
  scale : Int
  /-- The digits so far. -/
  quotient : Nat
  /-- What is left over. -/
  rest : Nat

namespace Division

/-- The places by which the quotient may grow in one step; none if there is room for less than
nine and that leaves less than no places. -/
def room? (d : Division) : Option Nat :=
  let most := min 9 ((maxScale : Int) - d.scale).toNat
  let fits (places : Nat) : Bool := d.quotient * Nat.pow 10 places < limit
  let places := ((List.range (most + 1)).reverse.find? fits).getD 0
  if places < 9 ∧ (places : Int) + d.scale < 0 then none else some places

/-- The quotient and rest with some places more. -/
def extend (d : Division) (divisor places : Nat) : Division :=
  let power := Nat.pow 10 places
  let rest := d.rest * power
  ⟨d.scale + places, d.quotient * power + rest / divisor, rest % divisor⟩

/-- One place less, rounded half to even, where a rest counts as more than its digits; none if
there is no place to give up. -/
def giveUpPlace? (d : Division) : Option (Nat × Int) :=
  let last := d.quotient % 10
  let shorter := d.quotient / 10
  let up := last > 5 ∨ last = 5 ∧ (d.rest ≠ 0 ∨ shorter % 2 = 1)
  if d.scale < 1 then none else some (if up then shorter + 1 else shorter, d.scale - 1)

/-- The digits and places once nothing can be added: the rest decides about the last digit. -/
def round? (d : Division) (divisor : Nat) : Option (Nat × Int) :=
  let up := divisor < 2 * d.rest ∨ divisor = 2 * d.rest ∧ d.quotient % 2 = 1
  if !up then some (d.quotient, d.scale)
  else if d.quotient + 1 < limit then some (d.quotient + 1, d.scale)
  else giveUpPlace? ⟨d.scale, d.quotient + 1, 1⟩

/-- The digits and places in at most `steps` steps. -/
def finish? (divisor : Nat) : Nat → Division → Option (Nat × Int)
  | 0, d => round? d divisor
  | steps + 1, d =>
    if d.rest = 0 then
      if 0 ≤ d.scale then some (d.quotient, d.scale)
      else
        let more := d.extend divisor (min 9 (-d.scale).toNat)
        if more.quotient < limit then finish? divisor steps more else none
    else if d.scale = maxScale then round? d divisor
    else do
      let places ← d.room?
      if places = 0 then round? d divisor
      else
        let more := d.extend divisor places
        if more.quotient < limit then finish? divisor steps more else giveUpPlace? more

end Division

/-- Drops `count` zeros at the end, if there are so many places and zeros. -/
def dropZeros (count : Nat) (digits : Nat × Nat) : Nat × Nat :=
  if count ≤ digits.2 ∧ digits.1 % Nat.pow 10 count = 0 then
    (digits.1 / Nat.pow 10 count, digits.2 - count)
  else digits

/-- Drops eight zeros at the end as often as the digits are a multiple of `2 ^ 32`. -/
def dropEights : Nat → Nat × Nat → Nat × Nat
  | 0, digits => digits
  | times + 1, digits =>
    if digits.1 % Nat.pow 2 32 = 0 ∧ (dropZeros 8 digits).2 < digits.2 then
      dropEights times (dropZeros 8 digits)
    else digits

/-- The quotient. -/
def div? (a b : Decimal) : Option Decimal :=
  if b.mantissa = 0 then none
  else if a.mantissa = 0 then some zero
  else do
    let start : Division :=
      ⟨(a.scale : Int) - b.scale, a.mantissa / b.mantissa, a.mantissa % b.mantissa⟩
    let (quotient, scale) ← start.finish? b.mantissa (3 * maxScale)
    let digits := (quotient, scale.toNat)
    let (quotient, scale) :=
      if start.rest = 0 then digits
      else dropZeros 1 (dropZeros 2 (dropZeros 4 (dropEights 4 digits)))
    return ⟨a.negative != b.negative, quotient, scale⟩

/-- The remainder, with the sign of what is divided. -/
def rem? (a b : Decimal) : Option Decimal :=
  if b.mantissa = 0 then none
  else
    let scale := max a.scale b.scale
    let x := (a.signedAt scale).natAbs
    let y := (b.signedAt scale).natAbs
    if x < y then some a else some ⟨a.negative, x % y, scale⟩

/-! ## Back to whole and floating-point numbers -/

/-- The number, if it is whole. -/
def toInt? (a : Decimal) : Option Int :=
  if a.mantissa % Nat.pow 10 a.scale = 0 then
    let whole := a.mantissa / Nat.pow 10 a.scale
    some (if a.negative then -(whole : Int) else whole)
  else none

/-- `10 ^ n` by repeated squaring in floating-point numbers. -/
def powerOfTen (n : Nat) : Float :=
  go n 10.0 1.0
where
  /-- `product * base ^ n`. -/
  go (n : Nat) (base product : Float) : Float :=
    let product := if n % 2 = 1 then product * base else product
    if n / 2 = 0 then product else go (n / 2) (base * base) product
  termination_by n
  decreasing_by omega

/-- The floating-point number for the decimal: whole part and fraction are converted apart, and
their sum is rounded to the decimal's places. -/
def toFloat (a : Decimal) : Float :=
  let unit := Nat.pow 10 a.scale
  let whole := ofNat (a.mantissa / unit)
  let fraction := ofNat (a.mantissa % unit) / ofNat unit
  let magnitude :=
    if a.scale = 0 ∨ fraction == 0.0 then whole
    else
      let power := powerOfTen a.scale
      roundHalfAway ((whole + fraction) * power) / power
  if a.negative then -magnitude else magnitude

end Decimal

end DynamicSql.Number
