import Concordance.Encoding.Utf8

/-!
# Texts and their bytes

Bytes are read as a text exactly if they are its bytes in UTF-8 (`fromUTF8?_eq_some_iff`). The bytes of
a text are those of its characters, one behind the other (`encode_eq_flatMap`), and nothing is replaced
when they are read (`decodeLossy_encode`).
-/

namespace Concordance

namespace Text

theorem fromUTF8?_eq_some_iff {bytes : ByteArray} {text : String} :
    String.fromUTF8? bytes = some text ↔ bytes = text.toUTF8 := by
  rw [String.fromUTF8?]
  constructor
  · intro h
    split at h
    · cases h
      rfl
    · cases h
  · rintro rfl
    rw [String.toUTF8_eq_toByteArray, dif_pos text.isValidUTF8]
    rfl

theorem toList_loop_eq (bytes : ByteArray) (i : Nat) (read : List UInt8) :
    ByteArray.toList.loop bytes i read = read.reverse ++ bytes.data.toList.drop i := by
  induction i, read using ByteArray.toList.loop.induct bytes with
  | case1 i read hlt ih =>
    have hsize : i < bytes.data.toList.length := hlt
    have hget : bytes.get! i = bytes.data.toList[i] := getElem!_pos bytes.data i hlt
    rw [ByteArray.toList.loop, if_pos hlt, ih, List.reverse_cons, List.append_assoc,
      List.drop_eq_getElem_cons hsize, hget]
    rfl
  | case2 i read hge =>
    have hsize : bytes.data.toList.length ≤ i := Nat.le_of_not_lt hge
    rw [ByteArray.toList.loop, if_neg hge, List.drop_eq_nil_of_le hsize, List.append_nil]

/-- The bytes of a list are those of its array. -/
theorem toList_eq (bytes : ByteArray) : bytes.toList = bytes.data.toList :=
  toList_loop_eq bytes 0 []

theorem length_toUTF8_toList (s : String) : s.toUTF8.toList.length = s.utf8ByteSize := by
  rw [toList_eq]
  rfl

end Text

namespace Utf8

/-- Each character has its own bytes. -/
theorem encode_eq_flatMap (s : List Char) : encode s = s.flatMap String.utf8EncodeChar := by
  rw [encode, Text.toList_eq, String.toUTF8_eq_toByteArray, String.toByteArray_ofList,
    List.utf8Encode, List.data_toByteArray]

/-- The bytes of a text are read as this text. -/
theorem decode?_encode (s : List Char) : decode? (encode s) = some s := by
  have hbytes : String.fromUTF8? ⟨(encode s).toArray⟩ = some (String.ofList s) := by
    rw [Text.fromUTF8?_eq_some_iff, encode, Text.toList_eq]
  rw [decode?, hbytes, Option.map_some, String.toList_ofList]

/-! ## Reading with replacement -/

variable {n : Nat} {rest : List UInt8}

theorem decodeLossy_cons_of_lead {b : UInt8} {bits : Nat} {bounds : List (Nat × Nat)}
    {bytes : List UInt8} (hlead : lead? b = some (bits, bounds))
    (hfollow : follow bits bounds bytes = (some n, rest)) :
    decodeLossy (b :: bytes) = Char.ofNat n :: decodeLossy rest := by
  rw [decodeLossy, hlead]
  simp only [hfollow, Option.map_some, Option.getD_some]

/-- A byte within its bounds is taken. -/
theorem follow_cons {bits low high m : Nat} {bounds : List (Nat × Nat)}
    (hlow : low ≤ m + 128) (hhigh : m + 128 ≤ high) (hm : m < 64) :
    follow bits ((low, high) :: bounds) (UInt8.ofNat (m + 128) :: rest) =
      follow (bits * 64 + m) bounds rest := by
  have hbyte : (UInt8.ofNat (m + 128)).toNat = m + 128 :=
    UInt8.toNat_ofNat_of_lt' (show m + 128 < 256 by omega)
  have hbits : (m + 128) % 64 = m := by omega
  rw [follow, hbyte, if_pos ⟨hlow, hhigh⟩, hbits]

theorem decodeLossy_one (h : n < 0x80) :
    decodeLossy (UInt8.ofNat n :: rest) = Char.ofNat n :: decodeLossy rest := by
  have hlead : ∀ m < 128, lead? (UInt8.ofNat m) = some (m, []) := by decide
  exact decodeLossy_cons_of_lead (hlead n h) rfl

theorem decodeLossy_two (hlow : 0x80 ≤ n) (hhigh : n < 0x800) :
    decodeLossy (UInt8.ofNat (n / 64 % 32 + 192) :: UInt8.ofNat (n % 64 + 128) :: rest) =
      Char.ofNat n :: decodeLossy rest := by
  have hlead : ∀ m < 32, m < 2 ∨
      lead? (UInt8.ofNat (m + 192)) = some (m, [(0x80, 0xBF)]) := by
    decide
  refine decodeLossy_cons_of_lead ((hlead (n / 64 % 32) (by omega)).resolve_left (by omega)) ?_
  rw [follow_cons (by omega) (by omega) (by omega), follow]
  congr 2
  omega

/-- The bounds of the second byte keep out what has a shorter form, and surrogates. -/
theorem decodeLossy_three (hlow : 0x800 ≤ n) (hhigh : n < 0x10000)
    (hvalid : n < 0xD800 ∨ 0xDFFF < n) :
    decodeLossy (UInt8.ofNat (n / 4096 % 16 + 224) :: UInt8.ofNat (n / 64 % 64 + 128) ::
      UInt8.ofNat (n % 64 + 128) :: rest) = Char.ofNat n :: decodeLossy rest := by
  have hlead : ∀ m < 16, lead? (UInt8.ofNat (m + 224)) = some (m,
      [(if m = 0 then 0xA0 else 0x80, if m = 0xD then 0x9F else 0xBF), (0x80, 0xBF)]) := by
    decide
  refine decodeLossy_cons_of_lead (hlead (n / 4096 % 16) (by omega)) ?_
  rw [follow_cons (by split <;> omega) (by split <;> omega) (by omega),
    follow_cons (by omega) (by omega) (by omega), follow]
  congr 2
  omega

/-- The bounds of the second byte keep out what has a shorter form, and what is too great. -/
theorem decodeLossy_four (hlow : 0x10000 ≤ n) (hhigh : n < 0x110000) :
    decodeLossy (UInt8.ofNat (n / 262144 % 8 + 240) :: UInt8.ofNat (n / 4096 % 64 + 128) ::
      UInt8.ofNat (n / 64 % 64 + 128) :: UInt8.ofNat (n % 64 + 128) :: rest) =
      Char.ofNat n :: decodeLossy rest := by
  have hlead : ∀ m < 5, lead? (UInt8.ofNat (m + 240)) = some (m,
      [(if m = 0 then 0x90 else 0x80, if m = 4 then 0x8F else 0xBF), (0x80, 0xBF),
        (0x80, 0xBF)]) := by
    decide
  refine decodeLossy_cons_of_lead (hlead (n / 262144 % 8) (by omega)) ?_
  rw [follow_cons (by split <;> omega) (by split <;> omega) (by omega),
    follow_cons (by omega) (by omega) (by omega), follow_cons (by omega) (by omega) (by omega),
    follow]
  congr 2
  omega

/-- The bytes of a character are read as this character, whatever follows. -/
theorem decodeLossy_utf8EncodeChar_append (c : Char) (rest : List UInt8) :
    decodeLossy (String.utf8EncodeChar c ++ rest) = c :: decodeLossy rest := by
  have hvalid : c.toNat < 0xD800 ∨ 0xDFFF < c.toNat ∧ c.toNat < 0x110000 := c.valid
  have hc : c = Char.ofNat c.val.toNat := (Char.ofNat_toNat c).symm
  unfold Char.toNat at hvalid
  simp only [String.utf8EncodeChar]
  split
  · rw [List.singleton_append, decodeLossy_one (by omega), ← hc]
  · split
    · rw [List.cons_append, List.singleton_append, decodeLossy_two (by omega) (by omega), ← hc]
    · split
      · rw [List.cons_append, List.cons_append, List.singleton_append,
          decodeLossy_three (by omega) (by omega) (by omega), ← hc]
      · rw [List.cons_append, List.cons_append, List.cons_append, List.singleton_append,
          decodeLossy_four (by omega) (by omega), ← hc]

/-- Nothing of the bytes of a text is replaced. -/
theorem decodeLossy_encode (s : List Char) : decodeLossy (encode s) = s := by
  rw [encode_eq_flatMap]
  induction s with
  | nil => rw [List.flatMap_nil, decodeLossy]
  | cons c s ih => rw [List.flatMap_cons, decodeLossy_utf8EncodeChar_append, ih]

end Utf8

end Concordance
