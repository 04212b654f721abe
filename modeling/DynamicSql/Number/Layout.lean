import DynamicSql.Number.Shortest
import DynamicSql.Text.Basic

/-!
# Number layouts

A layout says how the shortest digits of a number are written: for which sizes with a point and
for which with an exponent, whether a whole number keeps `.0`, and how a positive exponent is
marked. The library writes floating-point numbers in three layouts: inside SQL text and
strings, in messages about expressions, and in JSON.
-/

namespace DynamicSql.Number

/-- How floating-point numbers are written. -/
structure Layout where
  /-- Whether a number whose first digit counts `10 ^ e` is written without an exponent. -/
  positional : Int → Bool
  /-- Whether a whole number ends in `.0`. -/
  keepsPoint : Bool
  /-- What stands between `e` and a positive exponent. -/
  plus : Text
  /-- Which of two equally near decimals is taken. -/
  tie : Tie

namespace Layout

/-- Inside SQL text and strings: never an exponent, and no point in whole numbers. -/
def plain : Layout := ⟨fun _ => true, false, [], .up⟩

/-- In messages: an exponent below `10 ^ -4` and from `10 ^ 16` on. -/
def message : Layout := ⟨fun e => -4 ≤ e && e < 16, true, [], .up⟩

/-- In JSON: an exponent below `10 ^ -5` and, with a plus sign, from `10 ^ 16` on. -/
def json : Layout := ⟨fun e => -5 ≤ e && e < 16, true, ['+'], .even⟩

/-- `0.d₁d₂… * 10 ^ k` without an exponent. -/
def positionalText (layout : Layout) (digits : Text) (k : Int) : Text :=
  if k ≤ 0 then ['0', '.'] ++ List.replicate (-k).toNat '0' ++ digits
  else if digits.length ≤ k.toNat then
    digits ++ List.replicate (k.toNat - digits.length) '0' ++
      if layout.keepsPoint then ['.', '0'] else []
  else digits.take k.toNat ++ ['.'] ++ digits.drop k.toNat

/-- `d₁.d₂… * 10 ^ e` with an exponent. -/
def exponentText (layout : Layout) (digits : Text) (e : Int) : Text :=
  let fraction := if digits.length ≤ 1 then [] else '.' :: digits.drop 1
  digits.take 1 ++ fraction ++ ['e'] ++ (if 0 < e then layout.plus else []) ++ Text.ofInt e

/-- A finite number without its sign. -/
def magnitude (layout : Layout) (mantissa : Nat) (exponent : Int) : Text :=
  if mantissa = 0 then if layout.keepsPoint then ['0', '.', '0'] else ['0']
  else
    let shortest := shortest layout.tie mantissa exponent
    let digits := Text.ofNat shortest.digits
    if layout.positional (shortest.exponent - 1) then
      layout.positionalText digits shortest.exponent
    else layout.exponentText digits (shortest.exponent - 1)

/-- A number in the given layout. -/
def write (layout : Layout) (x : Float) : Text :=
  match Reading.ofFloat x with
  | .nan => "NaN".toList
  | .infinite negative => (if negative then ['-'] else []) ++ "inf".toList
  | .finite negative m e => (if negative then ['-'] else []) ++ layout.magnitude m e

end Layout

end DynamicSql.Number
