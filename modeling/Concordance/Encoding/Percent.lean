import Concordance.Encoding.Utf8
import Concordance.Number.Hex

/-!
# Percent encoding

A byte is spelled by a percent sign and two hexadecimal digits. `decode` reads such spellings
and leaves a percent sign without two digits as it is; `encode` spells the bytes of the
characters that a set names, with digits in upper case.
-/

namespace Concordance.Percent

/-- A hexadecimal digit in upper case. -/
def digit (n : Nat) : Char :=
  if n < 10 then Char.ofNat (0x30 + n) else Char.ofNat (0x41 + (n - 10))

/-- The spelling of a byte. -/
def spell (b : UInt8) : List Char :=
  ['%', digit (b.toNat / 16), digit (b.toNat % 16)]

/-- A text in which the characters of a set, and all that are not ASCII, are spelled. -/
def encode (inSet : Char → Bool) (s : List Char) : List Char :=
  s.flatMap fun c =>
    if inSet c || 0x80 ≤ c.toNat then (Utf8.encode [c]).flatMap spell else [c]

/-- The value of a byte that is a hexadecimal digit. -/
def digitValue? (b : UInt8) : Option Nat :=
  Hex.digitValue? (Char.ofNat b.toNat)

/-- Bytes with all spellings read. -/
def decode : List UInt8 → List UInt8
  | 0x25 :: a :: b :: rest =>
    match digitValue? a, digitValue? b with
    | some high, some low => UInt8.ofNat (16 * high + low) :: decode rest
    | _, _ => 0x25 :: decode (a :: b :: rest)
  | b :: rest => b :: decode rest
  | [] => []

end Concordance.Percent
