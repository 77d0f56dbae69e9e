import Concordance.Number.Decimal
import Concordance.Number.Hex
import Concordance.Text.Blank

/-!
# Numeric hosts

A host whose last part is a number is an address of four bytes. It may be written with fewer
parts, of which the last fills all the bytes that remain, and each part may be decimal, octal or
hexadecimal. A host in square brackets is an address of eight pieces of sixteen bits; one run of
zero pieces may be left out, and the last two pieces may be written as an address of four bytes.
-/

namespace Concordance.Url

open Text

namespace Ipv4

/-- The number that digits of a base spell; none at all spell zero. -/
def readDigits? (base : Nat) (s : List Char) : Option Nat :=
  s.foldlM (fun acc c => do
    let d ← Hex.digitValue? c
    if d < base then return base * acc + d else none) 0

/-- The number that a part spells. -/
def readPart? : List Char → Option Nat
  | [] => none
  | '0' :: 'x' :: s => readDigits? 16 s
  | '0' :: 'X' :: s => readDigits? 16 s
  | '0' :: c :: s => readDigits? 8 (c :: s)
  | s => readDigits? 10 s

/-- The parts of a host; an empty one at the end does not count. -/
def parts (host : List Char) : List (List Char) :=
  let parts := fieldChars '.' host
  if parts.length ≤ 1 then parts
  else if parts.getLast? = some [] then parts.dropLast
  else parts

/-- Whether the last part of a host is meant as a number. -/
def endsInNumber (host : List Char) : Bool :=
  match (parts host).getLast? with
  | none => false
  | some part =>
    (!part.isEmpty && part.all fun c => (Decimal.digitValue? c).isSome) || (readPart? part).isSome

/-- The number of an address, if all parts but the last fit into a byte and the last one into
what remains. -/
def read? (host : List Char) : Option Nat := do
  let numbers ← (parts host).mapM readPart?
  let last ← numbers.getLast?
  let front := numbers.dropLast
  if 3 < front.length || front.any (255 < ·) || Nat.pow 256 (4 - front.length) ≤ last then none
  else
    return front.zipIdx.foldl (fun n p => n + p.1 * Nat.pow 256 (3 - p.2)) last

/-- An address with its four bytes in decimal. -/
def render (n : Nat) : List Char :=
  List.intercalate ['.'] ([3, 2, 1, 0].map fun i => Decimal.digits (n / Nat.pow 256 i % 256))

end Ipv4

namespace Ipv6

/-- A piece of at most four hexadecimal digits. -/
def readPiece? (s : List Char) : Option Nat :=
  if s.isEmpty || 4 < s.length || !s.all Hex.isDigit then none else some (Hex.value s)

/-- A byte in decimal, without a leading zero. -/
def readByte? (s : List Char) : Option Nat :=
  if 1 < s.length && s.head? = some '0' then none
  else (Decimal.readDigits? s).filter (· < 256)

/-- The two pieces that an address of four bytes gives. -/
def readBytes? (s : List Char) : Option (List Nat) := do
  match ← (fieldChars '.' s).mapM readByte? with
  | [a, b, c, d] => return [a * 256 + b, c * 256 + d]
  | _ => none

/-- The pieces of a list of parts; the last part may give two if `isEnd`. -/
def readParts? (isEnd : Bool) : List (List Char) → Option (List Nat)
  | [] => some []
  | [part] =>
    if isEnd && part.contains '.' then readBytes? part else (readPiece? part).map ([·])
  | part :: rest => do return (← readPiece? part) :: (← readParts? isEnd rest)

/-- The pieces of one side of a gap; an empty side has none. -/
def readSide? (isEnd : Bool) (s : List Char) : Option (List Nat) :=
  if s.isEmpty then some [] else readParts? isEnd (fieldChars ':' s)

/-- What stands in front of the first two colons in a row, and what behind them. -/
def splitGap? : List Char → Option (List Char × List Char)
  | ':' :: ':' :: rest => some ([], rest)
  | c :: rest => (splitGap? rest).map fun p => (c :: p.1, p.2)
  | [] => none

/-- The eight pieces of an address. -/
def read? (s : List Char) : Option (List Nat) := do
  match splitGap? s with
  | none =>
    let pieces ← readParts? true (fieldChars ':' s)
    if pieces.length = 8 then return pieces else none
  | some (front, back) =>
    let front ← readSide? false front
    let back ← readSide? true back
    let given := front.length + back.length
    if 8 ≤ given then none
    else return front ++ List.replicate (8 - given) 0 ++ back

/-- The length of the run of zeros at the front. -/
def zeros (pieces : List Nat) : Nat :=
  (pieces.takeWhile (· = 0)).length

/-- The first of the longest runs of zeros, by its start and its length. -/
def longestRun (pieces : List Nat) : Nat × Nat :=
  (List.range pieces.length).foldl (fun best i =>
    let length := zeros (pieces.drop i)
    if best.2 < length then (i, length) else best) (0, 0)

/-- Pieces with colons between them. -/
def renderPieces (pieces : List Nat) : List Char :=
  List.intercalate [':'] (pieces.map Hex.digits)

/-- An address, its longest run of zeros left out if it has at least two. -/
def render (pieces : List Nat) : List Char :=
  let (start, length) := longestRun pieces
  if length < 2 then renderPieces pieces
  else renderPieces (pieces.take start) ++ ':' :: ':' :: renderPieces (pieces.drop (start + length))

end Ipv6

end Concordance.Url
