import DynamicSql.Number.Binary64

/-!
# The nearest floating-point number

`nearest num den` is the floating-point number nearest to the ratio `num / den`, computed in whole
numbers; of two equally near the one with the even mantissa. The mantissa of a finite number has
53 binary digits at most, and its exponent is at least `-1074`. Since the bits of a number count
up through the mantissas of one exponent and on to the next, a mantissa that rounds up to
`2 ^ 53` needs no special treatment.
-/

namespace DynamicSql.Number

/-- `num / den`, a half going to the even neighbour. -/
def divHalfEven (num den : Nat) : Nat :=
  let quotient := num / den
  let twice := 2 * (num % den)
  if twice < den then quotient
  else if den < twice then quotient + 1
  else quotient + quotient % 2

/-- The bits of infinity, above those of every finite number. -/
def infinityBits : Nat := 2047 * implicitBit

/-- The power of two whose multiples are tried for `num / den`: the least at which the quotient
has at most 53 binary digits, but not below `-1074`. -/
def gridExponent (num den : Nat) : Int :=
  if num = 0 then -1074
  else
    let guess : Int := (bitLength num : Int) - bitLength den - 53
    let tooFine :=
      if 0 ≤ guess then 2 * implicitBit * den * Nat.pow 2 guess.toNat ≤ num
      else 2 * implicitBit * den ≤ num * Nat.pow 2 (-guess).toNat
    max (-1074) (if tooFine then guess + 1 else guess)

/-- The floating-point number nearest to `num / den`, for a positive `den`. -/
def nearest (num den : Nat) : Float :=
  let e := gridExponent num den
  let mantissa :=
    if 0 ≤ e then divHalfEven num (den * Nat.pow 2 e.toNat)
    else divHalfEven (num * Nat.pow 2 (-e).toNat) den
  Float.ofBits (UInt64.ofNat (min infinityBits (mantissa + (e + 1074).toNat * implicitBit)))

/-- The floating-point number nearest to a natural number. -/
def ofNat (n : Nat) : Float := nearest n 1

/-- The floating-point number nearest to `digits * 10 ^ exponent`. -/
def ofDecimal (digits : Nat) (exponent : Int) : Float :=
  if 0 ≤ exponent then nearest (digits * Nat.pow 10 exponent.toNat) 1
  else nearest digits (Nat.pow 10 (-exponent).toNat)

end DynamicSql.Number
