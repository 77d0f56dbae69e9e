import Concordance.Text.Blank

/-!
# Punycode

A label with characters beyond ASCII is written in ASCII alone : first its ASCII characters, then,
behind a hyphen, where the other characters are put in. They are put in by ascending number, and
the distance from one to the next, counted over numbers and places, is written as an integer of
variable length. The base is 36, and how many digits are expected follows the distances before.
-/

namespace Concordance.Url.Punycode

/-! ## Integers of variable length -/

/-- The base of the digits. -/
def base : Nat := 36

/-- A digit : letters from zero, numerals behind them. -/
def digit (n : Nat) : Char :=
  if n < 26 then Char.ofNat (0x61 + n) else Char.ofNat (0x30 + (n - 26))

/-- The value of a digit; letters may be capitals. -/
def digitValue? (c : Char) : Option Nat :=
  let n := c.toNat
  if 0x61 ≤ n && n ≤ 0x7A then some (n - 0x61)
  else if 0x41 ≤ n && n ≤ 0x5A then some (n - 0x41)
  else if 0x30 ≤ n && n ≤ 0x39 then some (n - 0x30 + 26)
  else none

/-- The least value of a digit that is not the last, for the digit of weight index `k`. -/
def threshold (bias k : Nat) : Nat :=
  max 1 (min 26 (k - bias))

/-- The digits of `q`, from the one with index `k` on. -/
def digits (bias k q : Nat) : List Char :=
  let t := threshold bias k
  if q < t then [digit q]
  else digit (t + (q - t) % (base - t)) :: digits bias (k + base) ((q - t) / (base - t))
termination_by q
decreasing_by
  rename_i h
  have ht : 1 ≤ threshold bias k := Nat.le_max_left 1 _
  have : (q - threshold bias k) / (base - threshold bias k) ≤ q - threshold bias k :=
    Nat.div_le_self _ _
  omega

/-- The integer at the front, added to `acc` with the weight `w`, and what is left. -/
def readInteger (bias : Nat) : (k w acc : Nat) → List Char → Option (Nat × List Char)
  | _, _, _, [] => none
  | k, w, acc, c :: rest => do
    let d ← digitValue? c
    let t := threshold bias k
    let acc := acc + d * w
    if d < t then return (acc, rest)
    else readInteger bias (k + base) (w * (base - t)) acc rest

/-- Divide until at most 455 is left, and count. -/
def settle (delta k : Nat) : Nat × Nat :=
  if 455 < delta then settle (delta / 35) (k + base) else (delta, k)
termination_by delta
decreasing_by exact Nat.div_lt_self (by omega) (by decide)

/-- The bias behind a distance, when `count` characters are in place. -/
def adapt (delta count : Nat) (isFirst : Bool) : Nat :=
  let delta := if isFirst then delta / 700 else delta / 2
  let (delta, k) := settle (delta + delta / count) 0
  k + 36 * delta / (delta + 38)

/-! ## Writing -/

/-- What is written, and what the next distance depends on. -/
structure Encoder where
  /-- The characters written, in order. -/
  written : List Char
  /-- The distance so far. -/
  delta : Nat
  /-- The bias of the next integer. -/
  bias : Nat
  /-- The number of characters in place. -/
  placed : Nat

/-- Pass over one character of the label, while those with number `m` are put in; `basic` is the
number of ASCII characters. -/
def Encoder.pass (basic m : Nat) (e : Encoder) (c : Char) : Encoder :=
  if c.toNat < m then { e with delta := e.delta + 1 }
  else if c.toNat = m then
    { written := e.written ++ digits e.bias base e.delta
      delta := 0
      bias := adapt e.delta (e.placed + 1) (e.placed == basic)
      placed := e.placed + 1 }
  else e

/-- Put in the characters with the numbers of the list, which ascend; `n` is the first number not
dealt with. -/
def Encoder.run (basic : Nat) (label : List Char) : (n : Nat) → Encoder → List Nat → Encoder
  | _, e, [] => e
  | n, e, m :: rest =>
    let e := label.foldl (Encoder.pass basic m)
      { e with delta := e.delta + (m - n) * (e.placed + 1) }
    Encoder.run basic label (m + 1) { e with delta := e.delta + 1 } rest

/-- Whether a character is ASCII. -/
def isAscii (c : Char) : Bool :=
  c.toNat < 0x80

/-- A label in ASCII. -/
def encode (label : List Char) : List Char :=
  let basic := label.filter isAscii
  let numbers := ((label.filter (!isAscii ·)).map Char.toNat).mergeSort.eraseDups
  let front := if basic.isEmpty then [] else basic ++ ['-']
  let e := Encoder.run basic.length label 0x80 ⟨[], 0, 72, basic.length⟩ numbers
  front ++ e.written

/-! ## Reading -/

/-- Put characters into a label until nothing is left : `n` is the number of the last character
and `i` the place behind it. Each takes at least one character of the input, so `steps` is its
length. -/
def insertAll : (steps n i bias : Nat) → List Char → List Char → Option (List Char)
  | _, _, _, _, label, [] => some label
  | 0, _, _, _, _, _ :: _ => none
  | steps + 1, n, i, bias, label, rest => do
    let (distance, rest) ← readInteger bias base 1 i rest
    let count := label.length + 1
    let n := n + distance / count
    let place := distance % count
    let bias := adapt (distance - i) count (i == 0)
    let label := label.take place ++ Char.ofNat n :: label.drop place
    if 0x110000 ≤ n || (0xD800 ≤ n && n < 0xE000) then none
    else insertAll steps n (place + 1) bias label rest

/-- What stands in front of the last hyphen, and what behind it. -/
def splitHyphen (s : List Char) : List Char × List Char :=
  let behind := (s.reverse.takeWhile (· ≠ '-')).reverse
  let front := s.take (s.length - behind.length)
  if front.length ≤ 1 then ([], s) else (front.dropLast, behind)

/-- The label that was written in ASCII. -/
def decode? (s : List Char) : Option (List Char) :=
  let (front, rest) := splitHyphen s
  insertAll rest.length 0x80 0 72 front rest

end Concordance.Url.Punycode
