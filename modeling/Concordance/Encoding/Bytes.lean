import Std.Data.ExtTreeMap
import Std.Data.ExtTreeSet

/-!
# Binary encoding of simple values

Numbers are written with a fixed count of bytes, the least significant one first. A text, a
list, a set and a map are written as their length in eight bytes followed by their parts.
A reader takes a value from the front of a list of bytes and returns what is left, so readers
are put one behind another.
-/

namespace Concordance.Encoding

/-- Takes a value from the front of a list of bytes. -/
abbrev Reader (α : Type) := List UInt8 → Option (α × List UInt8)

/-! ## Numbers -/

/-- `n` in `count` bytes, the least significant first. -/
def putNat : (count : Nat) → (n : Nat) → List UInt8
  | 0, _ => []
  | count + 1, n => UInt8.ofNat n :: putNat count (n / 256)

/-- A number of `count` bytes. -/
def getNat : (count : Nat) → Reader Nat
  | 0, bytes => some (0, bytes)
  | _ + 1, [] => none
  | count + 1, b :: bytes => do
    let (n, rest) ← getNat count bytes
    return (b.toNat + 256 * n, rest)

/-- A number of 32 bits. -/
def putUInt32 (n : UInt32) : List UInt8 :=
  putNat 4 n.toNat

/-- A number of 32 bits. -/
def getUInt32 : Reader UInt32 := fun bytes => do
  let (n, rest) ← getNat 4 bytes
  return (UInt32.ofNat n, rest)

/-- A length. -/
def putLength (n : Nat) : List UInt8 :=
  putNat 8 n

/-- A length. -/
def getLength : Reader Nat :=
  getNat 8

/-! ## Texts -/

/-- A text in UTF-8. -/
def putText (s : String) : List UInt8 :=
  putLength s.utf8ByteSize ++ s.toUTF8.toList

/-- A text; its bytes must be valid UTF-8. -/
def getText : Reader String := fun bytes => do
  let (n, rest) ← getLength bytes
  if rest.length < n then none
  else
    let s ← String.fromUTF8? ⟨(rest.take n).toArray⟩
    return (s, rest.drop n)

/-! ## Lists, sets and maps -/

/-- The parts of a list without its length. -/
def putAll {α : Type} (put : α → List UInt8) (xs : List α) : List UInt8 :=
  xs.flatMap put

/-- `count` values in a row. -/
def getAll {α : Type} (get : Reader α) : (count : Nat) → Reader (List α)
  | 0, bytes => some ([], bytes)
  | count + 1, bytes => do
    let (x, rest) ← get bytes
    let (xs, rest) ← getAll get count rest
    return (x :: xs, rest)

/-- A list. -/
def putList {α : Type} (put : α → List UInt8) (xs : List α) : List UInt8 :=
  putLength xs.length ++ putAll put xs

/-- A list. -/
def getList {α : Type} (get : Reader α) : Reader (List α) := fun bytes => do
  let (n, rest) ← getLength bytes
  getAll get n rest

/-- A key with its value. -/
def putPair {α β : Type} (putKey : α → List UInt8) (putValue : β → List UInt8) (p : α × β) :
    List UInt8 :=
  putKey p.1 ++ putValue p.2

/-- A key with its value. -/
def getPair {α β : Type} (getKey : Reader α) (getValue : Reader β) : Reader (α × β) :=
  fun bytes => do
    let (k, rest) ← getKey bytes
    let (v, rest) ← getValue rest
    return ((k, v), rest)

variable {α β : Type} [Ord α] [Std.TransOrd α]

/-- A set, elements ascending. -/
def putSet (put : α → List UInt8) (s : Std.ExtTreeSet α) : List UInt8 :=
  putList put s.toList

/-- A set; the elements may stand in any order. -/
def getSet (get : Reader α) : Reader (Std.ExtTreeSet α) := fun bytes => do
  let (xs, rest) ← getList get bytes
  return (Std.ExtTreeSet.ofList xs, rest)

/-- A map, keys ascending. -/
def putMap (putKey : α → List UInt8) (putValue : β → List UInt8) (m : Std.ExtTreeMap α β) :
    List UInt8 :=
  putList (putPair putKey putValue) m.toList

/-- A map; the keys may stand in any order, and of two equal keys the later one counts. -/
def getMap (getKey : Reader α) (getValue : Reader β) : Reader (Std.ExtTreeMap α β) :=
  fun bytes => do
    let (entries, rest) ← getList (getPair getKey getValue) bytes
    return (Std.ExtTreeMap.ofList entries, rest)

end Concordance.Encoding
