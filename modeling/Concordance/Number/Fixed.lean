import Concordance.Number.Decimal

/-!
# Numbers with a fixed count of decimal places

A finite binary number is `m · 2 ^ e` for a natural number `m`. `Binary64` reads `m` and `e`
off the bits, and `fixed` rounds the exact value to a number of decimal places, a tie to the
even neighbour. Every digit in front of the point is written.
-/

namespace Concordance

/-- `num / den` rounded to the nearest integer, a tie to the even one. -/
def roundDiv (num den : Nat) : Nat :=
  let q := num / den
  let r := num % den
  if 2 * r < den then q
  else if den < 2 * r then q + 1
  else if q % 2 = 0 then q else q + 1

/-- The parts of a number in the binary interchange format of 64 bits. -/
inductive Binary64
  /-- Not a number. -/
  | nan
  /-- An infinity. -/
  | infinite (negative : Bool)
  /-- `mantissa · 2 ^ exponent`, or its negative. -/
  | finite (negative : Bool) (mantissa : Nat) (exponent : Int)
  deriving Repr, DecidableEq

namespace Binary64

/-- The parts of a floating point number. -/
def ofFloat (x : Float) : Binary64 :=
  let bits := x.toBits.toNat
  let negative := 0x8000000000000000 ≤ bits
  let biased := bits / 0x10000000000000 % 0x800
  let fraction := bits % 0x10000000000000
  if biased = 2047 then (if fraction = 0 then infinite negative else nan)
  else if biased = 0 then finite negative fraction (-1074)
  else finite negative (0x10000000000000 + fraction) ((biased : Int) - 1075)

/-- The value `mantissa · 2 ^ exponent` in units of `10 ^ -places`, rounded. -/
def scaled (mantissa : Nat) (exponent : Int) (places : Nat) : Nat :=
  let units := mantissa * Nat.pow 10 places
  if 0 ≤ exponent then units * Nat.pow 2 exponent.toNat
  else roundDiv units (Nat.pow 2 (-exponent).toNat)

end Binary64

/-- `units · 10 ^ -places` with all its places. -/
def placed (units places : Nat) : List Char :=
  if places = 0 then Decimal.digits units
  else
    let one := Nat.pow 10 places
    let fraction := Decimal.digits (units % one)
    Decimal.digits (units / one) ++ '.' ::
      (List.replicate (places - fraction.length) '0' ++ fraction)

/-- A number with a fixed count of places. A negative zero keeps its sign. -/
def fixed (places : Nat) (x : Float) : String :=
  match Binary64.ofFloat x with
  | .nan => "NaN"
  | .infinite negative => if negative then "-inf" else "inf"
  | .finite negative mantissa exponent =>
    String.ofList ((if negative then ['-'] else []) ++
      placed (Binary64.scaled mantissa exponent places) places)

end Concordance
