import Concordance.Encoding.Percent
import Concordance.Proofs.Text.Utf8

/-!
# Percent encoding undone

Bytes that are all spelled are read back (`decode_spelled`), and bytes without a percent sign are left as
they are (`decode_eq_self`).
-/

namespace Concordance.Percent

/-- A byte has two digits. -/
theorem halves_lt (b : UInt8) : b.toNat / 16 < 16 ∧ b.toNat % 16 < 16 :=
  ⟨Nat.div_lt_of_lt_mul b.toNat_lt_size, Nat.mod_lt _ (by decide)⟩

/-- A spelling consists of percent signs and digits. -/
theorem mem_spell {b : UInt8} {c : Char} (hc : c ∈ spell b) :
    c = '%' ∨ ∃ n < 16, c = digit n := by
  obtain ⟨hhigh, hlow⟩ := halves_lt b
  simp only [spell, List.mem_cons, List.not_mem_nil, or_false] at hc
  rcases hc with rfl | rfl | rfl
  · exact .inl rfl
  · exact .inr ⟨_, hhigh, rfl⟩
  · exact .inr ⟨_, hlow, rfl⟩

/-- A digit is a character of one byte, and has the value that it spells. -/
theorem utf8EncodeChar_digit : ∀ n < 16,
    String.utf8EncodeChar (digit n) = [UInt8.ofNat (digit n).toNat] ∧
      digitValue? (UInt8.ofNat (digit n).toNat) = some n := by
  decide

theorem decode_spell_append (b : UInt8) (rest : List UInt8) :
    decode (Utf8.encode (spell b) ++ rest) = b :: decode rest := by
  obtain ⟨hhigh, hhighValue⟩ := utf8EncodeChar_digit _ (halves_lt b).1
  obtain ⟨hlow, hlowValue⟩ := utf8EncodeChar_digit _ (halves_lt b).2
  have hpercent : String.utf8EncodeChar '%' = [0x25] := by decide
  have hbyte : UInt8.ofNat (16 * (b.toNat / 16) + b.toNat % 16) = b := by
    rw [Nat.div_add_mod, UInt8.ofNat_toNat]
  rw [Utf8.encode_eq_flatMap, spell, List.flatMap_cons, List.flatMap_cons, List.flatMap_singleton,
    hpercent, hhigh, hlow]
  simp only [List.cons_append, List.nil_append]
  rw [decode]
  simp only [hhighValue, hlowValue, hbyte]

theorem decode_spelled (bytes : List UInt8) :
    decode (Utf8.encode (bytes.flatMap spell)) = bytes := by
  induction bytes with
  | nil => rw [List.flatMap_nil, Utf8.encode_eq_flatMap, List.flatMap_nil, decode]
  | cons b bytes ih =>
    have happend : Utf8.encode (spell b ++ bytes.flatMap spell) =
        Utf8.encode (spell b) ++ Utf8.encode (bytes.flatMap spell) := by
      simp only [Utf8.encode_eq_flatMap, List.flatMap_append]
    rw [List.flatMap_cons, happend, decode_spell_append, ih]

theorem decode_eq_self {bytes : List UInt8} (h : 0x25 ∉ bytes) : decode bytes = bytes := by
  induction bytes with
  | nil => rw [decode]
  | cons b rest ih =>
    obtain ⟨hb, hrest⟩ := not_or.1 (mt List.mem_cons.2 h)
    rw [decode, ih hrest]
    intro a b' rest' hpercent
    exact absurd hpercent.symm hb

end Concordance.Percent
