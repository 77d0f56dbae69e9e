import Concordance.Json.Quoted

/-!
# Quoted text, written and read

Every character is read back from its written form, whatever it is and whatever follows
(`decodeRest_encodeChar`), and so is every text (`decode_encode`).
-/

namespace Concordance.Json.Quoted

/-- The letter that stands for a control character is turned into that character again. -/
theorem unescape?_of_shortEscape? {c letter : Char} (h : shortEscape? c = some letter) :
    unescape? letter = some c ∧ letter ≠ 'u' := by
  unfold shortEscape? at h
  repeat' split at h
  all_goals cases h
  all_goals
    subst c
    decide

/-- A backslash with a letter other than that of the hexadecimal form stands for one character. -/
theorem decodeRest_escape {letter : Char} (hletter : letter ≠ 'u') (rest : List Char) :
    decodeRest ('\\' :: letter :: rest) =
      (unescape? letter).bind fun c => (decodeRest rest).map fun p => (c :: p.1, p.2) := by
  rw [decodeRest]
  · cases unescape? letter <;> cases decodeRest rest <;> rfl
  · exact fun _ _ _ _ _ h => absurd h hletter

theorem unit?_byte {n : Nat} (h : n < 0x20) :
    unit? '0' '0' (Hex.digit (n / 16)) (Hex.digit (n % 16)) = some n := by
  have hall : ∀ m : Fin 0x20, unit? '0' '0' (Hex.digit (m / 16)) (Hex.digit (m % 16)) = some m.val := by
    decide
  exact hall ⟨n, h⟩

/-- A control character is read back from its hexadecimal form. -/
theorem decodeRest_byte {c : Char} (h : c.toNat < 0x20) (rest : List Char) :
    decodeRest ('\\' :: 'u' :: '0' :: '0' :: Hex.digit (c.toNat / 16) :: Hex.digit (c.toNat % 16) ::
      rest) = (decodeRest rest).map fun p => (c :: p.1, p.2) := by
  have hlow : isLow c.toNat = false := by simp [isLow]; omega
  have hhigh : isHigh c.toNat = false := by simp [isHigh]; omega
  rw [decodeRest, unit?_byte h]
  simp only [Option.bind_eq_bind, Option.bind_some, hlow, hhigh, Bool.false_eq_true, if_false,
    Char.ofNat_toNat]
  cases decodeRest rest <;> rfl

/-- A character without an escape stands for itself. -/
theorem decodeRest_cons {c : Char} (hquote : c ≠ '"') (hslash : c ≠ '\\') (h : ¬c.toNat < 0x20)
    (rest : List Char) : decodeRest (c :: rest) = (decodeRest rest).map fun p => (c :: p.1, p.2) := by
  rw [decodeRest]
  · rw [if_neg (not_or.2 ⟨hslash, h⟩)]
    cases decodeRest rest <;> rfl
  all_goals simp_all

/-- A character is read back from its written form. -/
theorem decodeRest_encodeChar (c : Char) (rest : List Char) :
    decodeRest (encodeChar c ++ rest) = (decodeRest rest).map fun p => (c :: p.1, p.2) := by
  rw [encodeChar]
  split
  · next h =>
    have hletter : c ≠ 'u' := by
      rintro rfl
      revert h
      decide
    have hself : unescape? c = some c := by rw [unescape?, if_pos (h.imp_right Or.inl)]
    exact (decodeRest_escape hletter rest).trans (by rw [hself]; rfl)
  · next h =>
    rw [not_or] at h
    split
    · next letter hescape =>
      obtain ⟨hunescape, hletter⟩ := unescape?_of_shortEscape? hescape
      exact (decodeRest_escape hletter rest).trans (by rw [hunescape]; rfl)
    · split
      · next hbyte => exact decodeRest_byte hbyte rest
      · next hplain => exact decodeRest_cons h.1 h.2 hplain rest

/-- Every text is read back, and what follows is left. -/
theorem decode_encode (s rest : List Char) : decode (encode s ++ rest) = some (s, rest) := by
  have hrest : decodeRest (s.flatMap encodeChar ++ '"' :: rest) = some (s, rest) := by
    induction s with
    | nil => rw [List.flatMap_nil, List.nil_append, decodeRest]
    | cons c s ih =>
      rw [List.flatMap_cons, List.append_assoc, decodeRest_encodeChar, ih]
      rfl
  rw [encode, List.cons_append, decode, List.append_assoc]
  exact hrest

end Concordance.Json.Quoted
