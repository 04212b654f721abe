/-!
# Floating-point numbers taken apart

A finite floating-point number is a sign, a whole mantissa and a power of two. `Reading.ofFloat`
takes a number apart into exactly these, so that decimal text, remainders and rounding can be
computed in whole numbers; `ofDyadic` puts such a triple together again.
-/

namespace DynamicSql.Number

/-- What a floating-point number stands for. -/
inductive Reading where
  /-- Not a number. -/
  | nan
  /-- Positive or negative infinity. -/
  | infinite (negative : Bool)
  /-- The number `mantissa * 2 ^ exponent`, with a minus sign if `negative`. -/
  | finite (negative : Bool) (mantissa : Nat) (exponent : Int)
  deriving DecidableEq

/-- The leading bit of a normal mantissa, which is not stored. -/
def implicitBit : Nat := Nat.pow 2 52

namespace Reading

/-- Takes a floating-point number apart. -/
def ofFloat (x : Float) : Reading :=
  let bits : Nat := x.toBits.toNat
  let negative := bits / Nat.pow 2 63 == 1
  let field : Nat := bits / implicitBit % Nat.pow 2 11
  let fraction : Nat := bits % implicitBit
  if field = 2047 then
    if fraction = 0 then .infinite negative else .nan
  else if field = 0 then .finite negative fraction (-1074)
  else .finite negative (implicitBit + fraction) ((field : Int) - 1075)

end Reading

/-- The number of binary digits of `n`. -/
def bitLength (n : Nat) : Nat := if n = 0 then 0 else n.log2 + 1

/-- `n * 2 ^ shift`, rounded down. -/
def shifted (n : Nat) (shift : Int) : Nat :=
  if 0 ≤ shift then n * Nat.pow 2 shift.toNat else n / Nat.pow 2 (-shift).toNat

/-- The floating-point number `mantissa * 2 ^ exponent`, for one that exists. -/
def ofDyadic (negative : Bool) (mantissa : Nat) (exponent : Int) : Float :=
  let lowest : Int := max (-1074) (exponent + bitLength mantissa - 53)
  let significand := shifted mantissa (exponent - lowest)
  let magnitude :=
    if significand < implicitBit then significand
    else significand - implicitBit + (lowest + 1075).toNat * implicitBit
  Float.ofBits (UInt64.ofNat (magnitude + if negative then Nat.pow 2 63 else 0))

/-- Not a number. -/
def nan : Float := 0.0 / 0.0

/-- Positive infinity. -/
def infinity : Float := 1.0 / 0.0

/-- The remainder of `x` after taking away `y` as often as it goes, with the sign of `x`. -/
def remainder (x y : Float) : Float :=
  match Reading.ofFloat x, Reading.ofFloat y with
  | .finite negative m e, .finite _ n f =>
    if n = 0 then nan
    else
      let unit := min e f
      ofDyadic negative (shifted m (e - unit) % shifted n (f - unit)) unit
  | .finite .., .infinite _ => x
  | _, _ => nan

/-- The nearest whole number, a half going away from zero. -/
def roundHalfAway (x : Float) : Float :=
  match Reading.ofFloat x with
  | .finite negative m e =>
    if 0 ≤ e then x
    else
      let unit := Nat.pow 2 (-e).toNat
      ofDyadic negative ((2 * m + unit) / (2 * unit)) 0
  | _ => x

/-- The floating-point number nearest to a whole number. -/
def ofInt64 (n : Int64) : Float := Float.ofInt n.toInt

end DynamicSql.Number
