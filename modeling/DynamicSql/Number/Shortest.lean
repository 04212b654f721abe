import DynamicSql.Number.Binary64

/-!
# Shortest decimals

The decimal text of a floating-point number has as few digits as identify it: it is the decimal
with the fewest digits among those that round to the number, and of several the nearest. The
real numbers that round to a given float form an interval, whose ends belong to it exactly if
the mantissa is even. A decimal grid meets the interval if one of the two grid points next to
the number lies in it, so only these are tested.
-/

namespace DynamicSql.Number

/-- Which of two equally near decimals is taken. -/
inductive Tie where
  /-- The larger one. -/
  | up
  /-- The one whose last digit is even. -/
  | even
  deriving DecidableEq

/-- The number `0.d₁d₂… * 10 ^ exponent`, where `digits` is the whole number `d₁d₂…`. -/
structure Digits where
  /-- The digits, read as a whole number. -/
  digits : Nat
  /-- The power of ten. -/
  exponent : Int
  deriving DecidableEq

/-- A ratio of natural numbers. -/
structure Ratio where
  /-- What is divided. -/
  num : Nat
  /-- What it is divided by. -/
  den : Nat

namespace Ratio

/-- `m * base ^ e` as a ratio. -/
def scaled (base m : Nat) (e : Int) : Ratio :=
  if 0 ≤ e then ⟨m * Nat.pow base e.toNat, 1⟩ else ⟨m, Nat.pow base (-e).toNat⟩

/-- Whether one ratio is less than another. -/
def lt (a b : Ratio) : Bool := a.num * b.den < b.num * a.den

/-- Whether one ratio is at most another. -/
def le (a b : Ratio) : Bool := a.num * b.den ≤ b.num * a.den

/-- The ratio divided by `10 ^ e`. -/
def perTen (a : Ratio) (e : Int) : Ratio :=
  if 0 ≤ e then ⟨a.num, a.den * Nat.pow 10 e.toNat⟩
  else ⟨a.num * Nat.pow 10 (-e).toNat, a.den⟩

end Ratio

/-- The interval of real numbers that round to a float. -/
structure Interval where
  /-- The lower end. -/
  low : Ratio
  /-- The upper end. -/
  high : Ratio
  /-- Whether the ends belong to it. -/
  closed : Bool

namespace Interval

/-- The numbers that round to `m * 2 ^ e`: half way to the neighbour on either side, where the
neighbour below a power of two is nearer. -/
def around (m : Nat) (e : Int) : Interval where
  low := .scaled 2 (if m = implicitBit ∧ e ≠ -1074 then 4 * m - 1 else 4 * m - 2) (e - 2)
  high := .scaled 2 (4 * m + 2) (e - 2)
  closed := m % 2 == 0

/-- Whether a ratio lies in the interval. -/
def holds (i : Interval) (x : Ratio) : Bool :=
  if i.closed then i.low.le x && x.le i.high else i.low.lt x && x.lt i.high

end Interval

/-- How many digits stand before the point: the least `k` with `x < 10 ^ k`, for a ratio of at
least `10 ^ -340`. -/
def leadingExponent (x : Ratio) : Int :=
  (Nat.toDigits 10 (x.num * Nat.pow 10 340 / x.den)).length - 340

/-- The point of the grid of `count` digits that lies in the interval and is nearest to `x`. -/
def nearestOnGrid? (tie : Tie) (i : Interval) (x : Ratio) (k : Int) (count : Nat) : Option Nat :=
  let unit := k - count
  let inUnits := x.perTen unit
  let below := inUnits.num / inUnits.den
  let rest := inUnits.num % inUnits.den
  let fits (n : Nat) : Bool := i.holds (.scaled 10 n unit)
  let upper : Bool :=
    if 2 * rest = inUnits.den then
      match tie with
      | .up => true
      | .even => below % 2 == 1
    else inUnits.den < 2 * rest
  match fits below, fits (below + 1) with
  | true, true => some (if upper then below + 1 else below)
  | true, false => some below
  | false, true => some (below + 1)
  | false, false => none

/-- The digits without the zeros at their end, of which at most `fuel` are dropped. -/
def dropZeros (fuel n : Nat) : Nat :=
  match fuel with
  | 0 => n
  | fuel + 1 => if n % 10 = 0 ∧ n ≠ 0 then dropZeros fuel (n / 10) else n

/-- The digits found on a grid of `count` digits; a carry into a new place moves the point. -/
def gridDigits (k : Int) (count n : Nat) : Digits :=
  if n = Nat.pow 10 count then ⟨1, k + 1⟩ else ⟨dropZeros count n, k⟩

/-- The shortest decimal that reads back as `m * 2 ^ e`, for a positive `m`. -/
def shortest (tie : Tie) (m : Nat) (e : Int) : Digits :=
  let x := Ratio.scaled 2 m e
  let i := Interval.around m e
  let k := leadingExponent x
  let found := (List.range 17).findSome? fun n =>
    (nearestOnGrid? tie i x k (n + 1)).map (gridDigits k (n + 1))
  found.getD ⟨m, k⟩

end DynamicSql.Number
