/-!
# Reading bytes as text

Bytes that are meant as UTF-8 but may be damaged are read with replacement : where a character
breaks off, the part of it that is there gives one replacement character, and reading goes on
behind it.
-/

namespace Concordance.Utf8

/-- The bytes of a text. -/
def encode (s : List Char) : List UInt8 :=
  (String.ofList s).toUTF8.toList

/-- The text of bytes, if they are UTF-8. -/
def decode? (bytes : List UInt8) : Option (List Char) :=
  (String.fromUTF8? ⟨bytes.toArray⟩).map String.toList

/-- What stands for a damaged character. -/
def replacement : Char := '\ufffd'

/-- The bits that the first byte of a character carries, and the bounds of each byte that must
follow. The bounds keep out overlong forms, surrogates and numbers that are too great. -/
def lead? (b : UInt8) : Option (Nat × List (Nat × Nat)) :=
  let n := b.toNat
  let tail := (0x80, 0xBF)
  if n < 0x80 then some (n, [])
  else if n < 0xC2 then none
  else if n < 0xE0 then some (n - 0xC0, [tail])
  else if n = 0xE0 then some (0, [(0xA0, 0xBF), tail])
  else if n = 0xED then some (0xD, [(0x80, 0x9F), tail])
  else if n < 0xF0 then some (n - 0xE0, [tail, tail])
  else if n = 0xF0 then some (0, [(0x90, 0xBF), tail, tail])
  else if n < 0xF4 then some (n - 0xF0, [tail, tail, tail])
  else if n = 0xF4 then some (4, [(0x80, 0x8F), tail, tail])
  else none

/-- The number of a character that begins with `bits`, if all bytes that must follow are there,
and what is left. -/
def follow (bits : Nat) : List (Nat × Nat) → List UInt8 → Option Nat × List UInt8
  | [], rest => (some bits, rest)
  | _ :: _, [] => (none, [])
  | (low, high) :: bounds, b :: rest =>
    if low ≤ b.toNat ∧ b.toNat ≤ high then follow (bits * 64 + b.toNat % 64) bounds rest
    else (none, b :: rest)

theorem length_follow_le (bits : Nat) (bounds : List (Nat × Nat)) (bytes : List UInt8) :
    (follow bits bounds bytes).2.length ≤ bytes.length := by
  induction bounds generalizing bits bytes with
  | nil => simp [follow]
  | cons bound bounds ih =>
    cases bytes with
    | nil => simp [follow]
    | cons b rest =>
      rw [follow]
      split
      · exact Nat.le_succ_of_le (ih _ _)
      · exact Nat.le_refl _

/-- The text of bytes, damaged characters replaced. -/
def decodeLossy : List UInt8 → List Char
  | [] => []
  | b :: rest =>
    match lead? b with
    | none => replacement :: decodeLossy rest
    | some (bits, bounds) =>
      let char := follow bits bounds rest
      (char.1.map Char.ofNat).getD replacement :: decodeLossy char.2
termination_by bytes => bytes.length
decreasing_by
  · simp
  · exact Nat.lt_succ_of_le (length_follow_le bits bounds rest)

end Concordance.Utf8
