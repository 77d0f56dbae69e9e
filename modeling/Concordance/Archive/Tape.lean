import Std.Data.ExtTreeMap

/-!
# Tape archives

An archive is a sequence of entries in blocks of 512 bytes : for each entry a header and its
content, filled up with zeros, and two blocks of zeros at the end. Numbers in a header are
written in octal digits. The check sum of a header is the sum of its bytes, counted with
blanks in its own place.
-/

namespace Concordance.Tape

/-- A file or a directory in an archive. -/
structure Entry where
  /-- The name, a path inside the archive. -/
  name : String
  /-- The content; a directory has none. -/
  content : Option ByteArray

/-- The number of bytes of a block. -/
def blockSize : Nat := 512

/-- Bytes cut or filled up with zeros to a given number. -/
def field (size : Nat) (bytes : List UInt8) : List UInt8 :=
  (bytes ++ List.replicate size 0).take size

/-- The octal digits of a number, with leading zeros. -/
def octal : (count : Nat) → (n : Nat) → List UInt8
  | 0, _ => []
  | count + 1, n => octal count (n / 8) ++ [UInt8.ofNat (0x30 + n % 8)]

/-- A field with a number. -/
def numberField (size n : Nat) : List UInt8 :=
  octal (size - 1) n ++ [0]

/-- The bytes of a text. -/
def ascii (s : String) : List UInt8 :=
  s.toUTF8.toList

/-- What stands in a header in front of the check sum. -/
def headerFront (entry : Entry) : List UInt8 :=
  field 100 (ascii entry.name) ++
    numberField 8 (if entry.content.isSome then 0o644 else 0o755) ++
    numberField 8 0 ++ numberField 8 0 ++
    numberField 12 (entry.content.elim 0 ByteArray.size) ++ numberField 12 0

/-- What stands in a header behind the check sum. -/
def headerBack (entry : Entry) : List UInt8 :=
  ascii (if entry.content.isSome then "0" else "5") ++ field 100 [] ++ ascii "ustar" ++ [0] ++
    ascii "00"

/-- The header of an entry. -/
def header (entry : Entry) : List UInt8 :=
  let front := headerFront entry
  let back := headerBack entry
  let sum := (front ++ back).foldl (fun total b => total + b.toNat) (8 * 0x20)
  field blockSize (front ++ octal 6 sum ++ [0, 0x20] ++ back)

/-- Bytes filled up with zeros to whole blocks. -/
def padded (bytes : List UInt8) : List UInt8 :=
  let used := bytes.length % blockSize
  if used = 0 then bytes else bytes ++ List.replicate (blockSize - used) 0

/-- The blocks of an entry. -/
def encodeEntry (entry : Entry) : List UInt8 :=
  header entry ++ padded (entry.content.elim [] ByteArray.toList)

/-- An archive. -/
def encode (entries : List Entry) : List UInt8 :=
  entries.flatMap encodeEntry ++ List.replicate (2 * blockSize) 0

end Concordance.Tape
