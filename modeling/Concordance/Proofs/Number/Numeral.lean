import Concordance.Number.Decimal
import Mathlib.Data.Nat.Digits.Lemmas

/-!
# What a numeral spells

A numeral spells the value of its digits in base ten; it may have a plus sign in front of them and
may begin with zeros (`Spells`). A numeral of 32 bits is read exactly if what it spells fits into 32
bits (`readUInt32?_eq_some_iff`).

Of the numerals of one number exactly one is plain : it has no sign, and no zeros in front
(`Spells.eq_digits_iff`).
-/

namespace Concordance.Decimal

variable {s : List Char} {acc n : Nat}

/-- Digits, at least one, with value `n` in base ten, behind at most one plus sign. -/
def Spells (s : List Char) (n : Nat) : Prop :=
  ∃ ds : List Nat, ds ≠ [] ∧ (∀ d ∈ ds, d < 10) ∧
    (s = ds.map digit ∨ s = '+' :: ds.map digit) ∧ Nat.ofDigits 10 ds.reverse = n

/-! ## Digits -/

theorem digitValue?_eq_some_iff {c : Char} {d : Nat} :
    digitValue? c = some d ↔ d < 10 ∧ c = digit d := by
  constructor
  · intro h
    rw [digitValue?] at h
    split at h
    · next hbounds =>
      simp only [Bool.and_eq_true, decide_eq_true_eq] at hbounds
      have hd := Option.some.inj h
      refine ⟨by omega, ?_⟩
      have hchar : 0x30 + d = c.toNat := by omega
      rw [digit, hchar, Char.ofNat_toNat]
    · cases h
  · rintro ⟨hd, rfl⟩
    exact digitValue?_digit hd

theorem digit_ne_plus {d : Nat} (hd : d < 10) : digit d ≠ '+' := by
  intro h
  have hvalue := digitValue?_digit hd
  rw [h] at hvalue
  cases hvalue

/-- Digits are read one by one, the most significant first. -/
theorem readFrom?_eq_some_iff : readFrom? acc s = some n ↔
    ∃ ds : List Nat, (∀ d ∈ ds, d < 10) ∧ s = ds.map digit ∧
      ds.foldl (fun value d => 10 * value + d) acc = n := by
  constructor
  · intro h
    induction s generalizing acc with
    | nil =>
      cases h
      exact ⟨[], by simp, rfl, rfl⟩
    | cons c s ih =>
      obtain ⟨d, hd, hrest⟩ := Option.bind_eq_some_iff.1 h
      obtain ⟨hlt, rfl⟩ := digitValue?_eq_some_iff.1 hd
      obtain ⟨ds, hds, rfl, hvalue⟩ := ih hrest
      exact ⟨d :: ds, List.forall_mem_cons.2 ⟨hlt, hds⟩, rfl, hvalue⟩
  · rintro ⟨ds, hds, rfl, rfl⟩
    induction ds generalizing acc with
    | nil => rfl
    | cons d ds ih =>
      obtain ⟨hd, hds⟩ := List.forall_mem_cons.1 hds
      rw [List.map_cons, readFrom?, digitValue?_digit hd]
      exact ih hds

theorem ofDigits_reverse (ds : List Nat) :
    Nat.ofDigits 10 ds.reverse = ds.foldl (fun value d => 10 * value + d) 0 := by
  rw [Nat.ofDigits_eq_foldr, List.foldr_reverse]
  simp only [Nat.cast_id, Nat.add_comm]

theorem readDigits?_eq_some_iff : readDigits? s = some n ↔
    ∃ ds : List Nat, ds ≠ [] ∧ (∀ d ∈ ds, d < 10) ∧ s = ds.map digit ∧
      Nat.ofDigits 10 ds.reverse = n := by
  simp only [ofDigits_reverse]
  cases s with
  | nil => simp [readDigits?, eq_comm]
  | cons c s =>
    rw [readDigits?, readFrom?_eq_some_iff]
    · refine exists_congr fun ds => ⟨fun ⟨hds, hs, hn⟩ => ⟨?_, hds, hs, hn⟩, And.right⟩
      rintro rfl
      cases hs
    · exact List.cons_ne_nil c s

/-! ## Numerals -/

/-- A numeral below the bound is read. -/
theorem readBelow?_eq_some_iff {bound : Nat} :
    readBelow? bound s = some n ↔ Spells s n ∧ n < bound := by
  unfold readBelow?
  rw [Option.filter_eq_some_iff, decide_eq_true_eq]
  refine and_congr_left fun _ => ?_
  split
  · next rest =>
    rw [readDigits?_eq_some_iff]
    refine exists_congr fun ds => and_congr_right fun hne => and_congr_right fun hds =>
      and_congr_left fun _ => ?_
    rw [List.cons.injEq, eq_self_iff_true, true_and, or_iff_right]
    intro hs
    obtain ⟨d, rest, rfl⟩ := List.exists_cons_of_ne_nil hne
    exact digit_ne_plus (hds d List.mem_cons_self) (List.cons.inj hs).1.symm
  · next s hplus =>
    rw [readDigits?_eq_some_iff]
    refine exists_congr fun ds => and_congr_right fun _ => and_congr_right fun _ =>
      and_congr_left fun _ => (or_iff_left ?_).symm
    exact hplus _

/-- A numeral of 32 bits is read exactly if it spells that number. -/
theorem readUInt32?_eq_some_iff {id : UInt32} : readUInt32? s = some id ↔ Spells s id.toNat := by
  simp only [readUInt32?, Option.map_eq_some_iff, readBelow?_eq_some_iff]
  constructor
  · rintro ⟨n, ⟨hspells, hlt⟩, rfl⟩
    rwa [UInt32.toNat_ofNat_of_lt' hlt]
  · exact fun hspells => ⟨id.toNat, ⟨hspells, id.toNat_lt_size⟩, UInt32.ofNat_toNat⟩

theorem readUInt32?_eq_none_iff : readUInt32? s = none ↔ ∀ id : UInt32, ¬Spells s id.toNat := by
  simp only [← readUInt32?_eq_some_iff, Option.eq_none_iff_forall_ne_some, ne_eq]

/-! ## Plain numerals -/

/-- There is no plus sign in front, and no zero but the numeral of zero. -/
structure Plain (s : List Char) : Prop where
  /-- There is no plus sign. -/
  unsigned : s.head? ≠ some '+'
  /-- There is no zero in front. -/
  no_zeros : s.head? = some '0' → s = ['0']

theorem digit_inj {d e : Nat} (hd : d < 10) (he : e < 10) (h : digit d = digit e) : d = e := by
  have hvalue := digitValue?_digit hd
  rw [h, digitValue?_digit he] at hvalue
  exact (Option.some.inj hvalue).symm

theorem spells_digits (n : Nat) : Spells (digits n) n := by
  obtain ⟨ds, hne, hds, hs, hvalue⟩ := readDigits?_eq_some_iff.1 (readDigits?_digits n)
  exact ⟨ds, hne, hds, Or.inl hs, hvalue⟩

/-- Apart from the numeral of zero, digits are those of the number in base ten. -/
theorem digits_eq_map (hn : n ≠ 0) : digits n = (Nat.digits 10 n).reverse.map digit := by
  induction n using Nat.strongRecOn with
  | ind n ih =>
    rw [digits]
    split
    · next hlt => rw [Nat.digits_of_lt 10 n hn hlt, List.reverse_singleton, List.map_singleton]
    · next hge =>
      rw [ih (n / 10) (by omega) (by omega), Nat.digits_def' (by omega) (by omega : 0 < n),
        List.reverse_cons, List.map_append, List.map_singleton]

theorem digits_of_lt (hn : n < 10) : digits n = [digit n] := by
  rw [digits, if_pos hn]

/-- Digits are plain unless they begin with a zero and go on. -/
theorem plain_map_digit_iff {ds : List Nat} (hds : ∀ d ∈ ds, d < 10) :
    Plain (ds.map digit) ↔ (ds.head? = some 0 → ds = [0]) := by
  cases ds with
  | nil => exact iff_of_true ⟨nofun, nofun⟩ nofun
  | cons d ds =>
    obtain ⟨hd, -⟩ := List.forall_mem_cons.1 hds
    have hzero : digit d = '0' ↔ d = 0 := ⟨fun h => digit_inj hd (by omega) h, fun h => h ▸ rfl⟩
    constructor
    · intro h hhead
      obtain rfl : d = 0 := by simpa using hhead
      rw [List.map_eq_nil_iff.1 (List.cons.inj (h.no_zeros rfl)).2]
    · intro h
      refine ⟨by simpa using digit_ne_plus hd, fun hhead => ?_⟩
      have hd0 : d = 0 := hzero.1 (by simpa using hhead)
      obtain ⟨rfl, rfl⟩ := List.cons.inj (h (by simp [hd0]))
      rfl

theorem plain_digits (n : Nat) : Plain (digits n) := by
  by_cases hn : n = 0
  · rw [hn, digits_of_lt (by omega)]
    exact ⟨by decide, fun _ => rfl⟩
  · rw [digits_eq_map hn, plain_map_digit_iff]
    · intro hhead
      have hne : Nat.digits 10 n ≠ [] := Nat.digits_ne_nil_iff_ne_zero.2 hn
      rw [List.head?_reverse, List.getLast?_eq_some_getLast hne, Option.some.injEq] at hhead
      exact absurd hhead (Nat.getLast_digit_ne_zero 10 hn)
    · exact fun d hd => Nat.digits_lt_base (by omega) (List.mem_reverse.1 hd)

/-- Of the numerals of a number the plain one consists of its digits. -/
theorem Spells.eq_digits_iff (h : Spells s n) : s = digits n ↔ Plain s := by
  constructor
  · rintro rfl
    exact plain_digits n
  · intro hplain
    obtain ⟨ds, hne, hds, rfl | rfl, rfl⟩ := h
    · by_cases hhead : ds.head? = some 0
      · rw [(plain_map_digit_iff hds).1 hplain hhead]
        exact (digits_of_lt (by omega)).symm
      · have hlast : ∀ h : ds.reverse ≠ [], ds.reverse.getLast h ≠ 0 := by
          intro h hzero
          rw [List.getLast_reverse] at hzero
          exact hhead (by rw [List.head?_eq_some_head hne, hzero])
        have hdigits : Nat.digits 10 (Nat.ofDigits 10 ds.reverse) = ds.reverse :=
          Nat.digits_ofDigits 10 (by omega) _ (by simpa using hds) hlast
        rw [digits_eq_map, hdigits, List.reverse_reverse]
        intro hzero
        rw [hzero, Nat.digits_zero] at hdigits
        exact hne (List.reverse_eq_nil_iff.1 hdigits.symm)
    · exact absurd rfl hplain.unsigned

end Concordance.Decimal
