/-!
# Arithmetic of weights

Weights are computed in any type with the operations of `Scalar`. The program runs on binary
floating point numbers, the instance of this module; a statement about exact weights takes
another instance. `order` is a total order, which places the two zeros and the numbers that
are not a number by their sign and bits.
-/

namespace Concordance

/-- The operations that weights and scores are made of. -/
class Scalar (α : Type) extends Add α, Mul α, Div α where
  /-- The number zero. -/
  zero : α
  /-- A count as a number. -/
  ofNat : Nat → α
  /-- The natural logarithm. -/
  ln : α → α
  /-- The square root. -/
  sqrt : α → α
  /-- Whether a number equals zero. -/
  isZero : α → Bool
  /-- Whether a number is greater than zero. -/
  isPositive : α → Bool
  /-- The total order in which scores are ranked. -/
  order : α → α → Ordering

namespace Scalar

variable {α : Type} [Scalar α]

/-- The sum of a list from the left. -/
def sum (xs : List α) : α :=
  xs.foldl (· + ·) zero

end Scalar

/-- The bits of a floating point number, arranged so that the order of integers is the total
order of the numbers. -/
def totalKey (x : Float) : Int :=
  let bits := x.toBits.toNat
  if bits < 0x8000000000000000 then bits else (0x8000000000000000 : Int) - bits - 1

instance : Scalar Float where
  zero := 0.0
  ofNat n := n.toFloat
  ln := Float.log
  sqrt := Float.sqrt
  isZero x := x == 0.0
  isPositive x := 0.0 < x
  order x y := compare (totalKey x) (totalKey y)

end Concordance
