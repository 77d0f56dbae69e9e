import Concordance.Encoding.Bytes

/-!
# Compressed files

A compressed file holds its content in blocks behind a short header, followed by a check sum and
the length of the content. The blocks written here store their content as it is, which every
reader of the format accepts.
-/

namespace Concordance.Compressed

open Encoding

/-- One step of the check sum : divide by the generator of the cyclic code. -/
def checkStep (r : UInt32) : UInt32 :=
  if r &&& 1 = 1 then (r >>> 1) ^^^ 0xEDB88320 else r >>> 1

/-- The check sum with one more byte. -/
def checkByte (r : UInt32) (b : UInt8) : UInt32 :=
  (List.range 8).foldl (fun r _ => checkStep r) (r ^^^ b.toUInt32)

/-- The check sum of bytes. -/
def checksum (bytes : List UInt8) : UInt32 :=
  bytes.foldl checkByte 0xFFFFFFFF ^^^ 0xFFFFFFFF

/-- The greatest number of bytes in a block. -/
def maxBlock : Nat := 65535

/-- A block; the last one of a file is marked. -/
def block (isLast : Bool) (bytes : List UInt8) : List UInt8 :=
  (if isLast then 1 else 0) :: (putNat 2 bytes.length ++ putNat 2 (maxBlock - bytes.length) ++
    bytes)

/-- The blocks of a content. -/
def blocks (bytes : List UInt8) : List UInt8 :=
  if bytes.length ≤ maxBlock then block true bytes
  else block false (bytes.take maxBlock) ++ blocks (bytes.drop maxBlock)
termination_by bytes.length
decreasing_by
  have : 0 < maxBlock := by decide
  simp only [List.length_drop]
  omega

/-- The header of a file without a name and a time. -/
def header : List UInt8 :=
  [0x1F, 0x8B, 8, 0, 0, 0, 0, 0, 0, 0xFF]

/-- A compressed file. -/
def encode (bytes : List UInt8) : List UInt8 :=
  header ++ blocks bytes ++ putUInt32 (checksum bytes) ++ putNat 4 bytes.length

end Concordance.Compressed
