/-!
# Hexadecimal digits

Values of hexadecimal digits and the numbers they spell, and the two digits of a byte.
-/

namespace Concordance.Hex

/-- The value of a hexadecimal digit in either case. -/
def digitValue? (c : Char) : Option Nat :=
  let n := c.toNat
  if 0x30 ≤ n && n ≤ 0x39 then some (n - 0x30)
  else if 0x61 ≤ n && n ≤ 0x66 then some (n - 0x61 + 10)
  else if 0x41 ≤ n && n ≤ 0x46 then some (n - 0x41 + 10)
  else none

/-- Whether `c` is a hexadecimal digit. -/
def isDigit (c : Char) : Bool :=
  (digitValue? c).isSome

/-- The number that the digits of `s` spell; other characters are passed over. -/
def value (s : List Char) : Nat :=
  (s.filterMap digitValue?).foldl (fun acc d => 16 * acc + d) 0

/-- The digit of a number below sixteen, in lower case. -/
def digit (n : Nat) : Char :=
  if n < 10 then Char.ofNat (0x30 + n) else Char.ofNat (0x61 + (n - 10))

/-- The digits of `n` in lower case, without leading zeros. -/
def digits (n : Nat) : List Char :=
  if n < 16 then [digit n] else digits (n / 16) ++ [digit (n % 16)]

/-- The two digits of a byte in lower case. -/
def byteDigits (b : UInt8) : List Char :=
  [digit (b.toNat / 16), digit (b.toNat % 16)]

/-- Bytes written with two digits each. -/
def ofBytes (bytes : List UInt8) : String :=
  String.ofList (bytes.flatMap byteDigits)

/-- The bytes that pairs of digits spell. -/
def toBytes? : List Char → Option (List UInt8)
  | [] => some []
  | a :: b :: rest => do
    let x ← digitValue? a
    let y ← digitValue? b
    return UInt8.ofNat (16 * x + y) :: (← toBytes? rest)
  | _ => none

end Concordance.Hex
