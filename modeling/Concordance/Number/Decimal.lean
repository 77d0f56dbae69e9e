/-!
# Decimal numerals

`digits` writes a number in decimal without leading zeros. `readBelow?` reads a numeral below
a bound : ASCII digits, which may begin with zeros, behind at most one plus sign. Every
number below the bound is read back from its digits (`readBelow?_digits`).
-/

namespace Concordance.Decimal

/-- The decimal digit of a number below ten. -/
def digit (n : Nat) : Char :=
  Char.ofNat (0x30 + n)

/-- The digits of `n`, most significant first. -/
def digits (n : Nat) : List Char :=
  if n < 10 then [digit n] else digits (n / 10) ++ [digit (n % 10)]

/-- The numeral of `n`. -/
def render (n : Nat) : String :=
  String.ofList (digits n)

/-- The value of a digit. -/
def digitValue? (c : Char) : Option Nat :=
  if 0x30 ≤ c.toNat && c.toNat ≤ 0x39 then some (c.toNat - 0x30) else none

/-- The number that the digits `s` spell behind digits of value `acc`. -/
def readFrom? (acc : Nat) : List Char → Option Nat
  | [] => some acc
  | c :: rest => do readFrom? (10 * acc + (← digitValue? c)) rest

/-- The number that a non-empty list of digits spells. -/
def readDigits? : List Char → Option Nat
  | [] => none
  | s => readFrom? 0 s

/-- The number below `bound` that a numeral spells. -/
def readBelow? (bound : Nat) (s : List Char) : Option Nat :=
  let value :=
    match s with
    | '+' :: rest => readDigits? rest
    | s => readDigits? s
  value.filter (· < bound)

/-- The number of 32 bits that a numeral spells. -/
def readUInt32? (s : List Char) : Option UInt32 :=
  (readBelow? UInt32.size s).map UInt32.ofNat

/-! ## Reading what was written -/

theorem digitValue?_digit {n : Nat} (h : n < 10) : digitValue? (digit n) = some n := by
  have : ∀ m : Fin 10, digitValue? (digit m) = some m.val := by decide
  exact this ⟨n, h⟩

theorem readFrom?_append (acc : Nat) (s t : List Char) :
    readFrom? acc (s ++ t) = (readFrom? acc s).bind fun v => readFrom? v t := by
  induction s generalizing acc with
  | nil => rfl
  | cons c s ih => cases h : digitValue? c <;> simp [readFrom?, h, ih]

theorem readFrom?_digits (n : Nat) : readFrom? 0 (digits n) = some n := by
  induction n using Nat.strongRecOn with
  | ind n ih =>
    rw [digits]
    split
    · simp [readFrom?, digitValue?_digit ‹n < 10›]
    · have h : n % 10 < 10 := Nat.mod_lt _ (by omega)
      rw [readFrom?_append, ih (n / 10) (by omega)]
      simp [readFrom?, digitValue?_digit h]
      omega

theorem digits_ne_nil (n : Nat) : digits n ≠ [] := by
  rw [digits]; split <;> simp

theorem readDigits?_digits (n : Nat) : readDigits? (digits n) = some n := by
  rw [← readFrom?_digits n]
  cases h : digits n with
  | nil => exact absurd h (digits_ne_nil n)
  | cons c s => rfl

/-- A number below the bound is read back from its digits. -/
theorem readBelow?_digits {n bound : Nat} (h : n < bound) :
    readBelow? bound (digits n) = some n := by
  have read := readFrom?_digits n
  unfold readBelow?
  split
  · next rest e => simp [e, readFrom?, digitValue?] at read
  · simp [readDigits?_digits, h]

/-- A number of 32 bits is read back from its digits. -/
theorem readUInt32?_digits (n : UInt32) : readUInt32? (digits n.toNat) = some n := by
  rw [readUInt32?, readBelow?_digits n.toNat_lt_size, Option.map_some, UInt32.ofNat_toNat]

/-- A numeral consists of digits. -/
theorem exists_digit_of_mem {n : Nat} {c : Char} (hc : c ∈ digits n) : ∃ d : Fin 10, c = digit d := by
  induction n using Nat.strongRecOn with
  | ind n ih =>
    rw [digits] at hc
    split at hc
    · next hlt => exact ⟨⟨n, hlt⟩, List.mem_singleton.1 hc⟩
    · have hlt : n % 10 < 10 := Nat.mod_lt n (by decide)
      rcases List.mem_append.1 hc with hc | hc
      · exact ih (n / 10) (by omega) hc
      · exact ⟨⟨n % 10, hlt⟩, List.mem_singleton.1 hc⟩

end Concordance.Decimal
