import Concordance.Encoding.Bytes
import Concordance.Proofs.Contents
import Concordance.Proofs.Text.Utf8
import Mathlib.Algebra.Group.Nat.Defs

/-!
# Values read back from their bytes

A reader inverts a writer if it gives back every value that was written in fewer than `2 ^ 64`
bytes, together with whatever follows (`Inverts`). That bound is what keeps the lengths of texts and
lists within their eight bytes : a part is never longer than the whole. Readers of pairs, lists, sets
and maps invert their writers if the readers of the parts do (`Inverts.pair`, `Inverts.list`,
`Inverts.set`, `Inverts.map`).

No reader looks behind the value that it takes (`Extends`), so what was written of a value is not
read if some of it is cut off at the end (`Inverts.get_take_eq_none`).
-/

namespace Concordance.Encoding

open Text

variable {α β : Type}

/-! ## Numbers -/

@[simp] theorem length_putNat (count n : Nat) : (putNat count n).length = count := by
  induction count generalizing n with
  | zero => rfl
  | succ count ih => rw [putNat, List.length_cons, ih]

/-- A number that fits into its bytes is read back. -/
theorem getNat_putNat {count n : Nat} (h : n < 256 ^ count) (rest : List UInt8) :
    getNat count (putNat count n ++ rest) = some (n, rest) := by
  induction count generalizing n with
  | zero =>
    obtain rfl : n = 0 := by omega
    rfl
  | succ count ih =>
    have hdiv : n / 256 < 256 ^ count := by
      rw [Nat.pow_succ] at h
      omega
    have hbyte : (UInt8.ofNat n).toNat = n % 256 := UInt8.toNat_ofNat'
    rw [putNat, List.cons_append, getNat, ih hdiv]
    show some ((UInt8.ofNat n).toNat + 256 * (n / 256), rest) = _
    rw [hbyte, Nat.mod_add_div]

theorem getUInt32_putUInt32 (n : UInt32) (rest : List UInt8) :
    getUInt32 (putUInt32 n ++ rest) = some (n, rest) := by
  rw [getUInt32, putUInt32, getNat_putNat n.toNat_lt_size]
  show some (UInt32.ofNat n.toNat, rest) = _
  rw [UInt32.ofNat_toNat]

@[simp] theorem length_putLength (n : Nat) : (putLength n).length = 8 :=
  length_putNat 8 n

theorem getLength_putLength {n : Nat} (h : n < 2 ^ 64) (rest : List UInt8) :
    getLength (putLength n ++ rest) = some (n, rest) :=
  getNat_putNat h rest

/-! ## Texts -/

theorem getText_putText {s : String} (h : (putText s).length < 2 ^ 64) (rest : List UInt8) :
    getText (putText s ++ rest) = some (s, rest) := by
  rw [putText, List.length_append, length_toUTF8_toList] at h
  rw [getText, putText, List.append_assoc, getLength_putLength (by omega)]
  have htake : (s.toUTF8.toList ++ rest).take s.utf8ByteSize = s.toUTF8.toList :=
    List.take_left' (length_toUTF8_toList s)
  have hdrop : (s.toUTF8.toList ++ rest).drop s.utf8ByteSize = rest :=
    List.drop_left' (length_toUTF8_toList s)
  have hlength : ¬(s.toUTF8.toList ++ rest).length < s.utf8ByteSize := by
    rw [List.length_append, length_toUTF8_toList]
    omega
  have hbytes : (⟨s.toUTF8.toList.toArray⟩ : ByteArray) = s.toUTF8 := by
    rw [toList_eq]
  show (if (s.toUTF8.toList ++ rest).length < s.utf8ByteSize then none else _) = _
  rw [if_neg hlength, htake, hdrop, hbytes, fromUTF8?_eq_some_iff.2 rfl]
  rfl

/-! ## Values with parts -/

/-- A reader gives back what a writer wrote in fewer than `2 ^ 64` bytes, and no value is written
without bytes. -/
structure Inverts (get : Reader α) (put : α → List UInt8) : Prop where
  /-- The value is read, and what follows is left. -/
  read : ∀ x rest, (put x).length < 2 ^ 64 → get (put x ++ rest) = some (x, rest)
  /-- A value has a byte. -/
  pos : ∀ x, 0 < (put x).length

namespace Inverts

variable {getKey : Reader α} {putKey : α → List UInt8} {getValue : Reader β}
  {putValue : β → List UInt8}

theorem uint32 : Inverts getUInt32 putUInt32 where
  read n rest _ := getUInt32_putUInt32 n rest
  pos n := by
    rw [putUInt32, length_putNat]
    decide

theorem text : Inverts getText putText where
  read _ rest h := getText_putText h rest
  pos s := by
    rw [putText, List.length_append, length_putLength]
    omega

theorem pair (hkey : Inverts getKey putKey) (hvalue : Inverts getValue putValue) :
    Inverts (getPair getKey getValue) (putPair putKey putValue) where
  read := by
    rintro ⟨k, v⟩ rest h
    have hlength : (putKey k).length + (putValue v).length < 2 ^ 64 := by
      rwa [← List.length_append]
    rw [putPair, List.append_assoc, getPair, hkey.read k _ (by omega)]
    show ((getValue (putValue v ++ rest)).bind fun _ => _) = _
    rw [hvalue.read v rest (by omega)]
    rfl
  pos p := by
    rw [putPair, List.length_append]
    exact Nat.add_pos_left (hkey.pos p.1) _

/-- Values in a row are read back one after the other. -/
theorem getAll_putAll (h : Inverts getKey putKey) (rest : List UInt8) : ∀ xs : List α,
    (putAll putKey xs).length < 2 ^ 64 →
      getAll getKey xs.length (putAll putKey xs ++ rest) = some (xs, rest)
  | [], _ => rfl
  | x :: xs, hlength => by
    rw [putAll, List.flatMap_cons, List.length_append] at hlength
    rw [putAll, List.flatMap_cons, List.append_assoc, List.length_cons, getAll,
      h.read x _ (by omega)]
    show ((getAll getKey xs.length (putAll putKey xs ++ rest)).bind fun _ => _) = _
    rw [getAll_putAll h rest xs (by rw [putAll]; omega)]
    rfl

/-- A row of values has at least as many bytes as values. -/
theorem length_le_putAll (h : Inverts getKey putKey) (xs : List α) :
    xs.length ≤ (putAll putKey xs).length := by
  induction xs with
  | nil => exact Nat.zero_le _
  | cons x xs ih =>
    have hpos := h.pos x
    rw [putAll] at ih ⊢
    rw [List.flatMap_cons, List.length_append, List.length_cons]
    omega

theorem list (h : Inverts getKey putKey) : Inverts (getList getKey) (putList putKey) where
  read xs rest hlength := by
    rw [putList, List.length_append] at hlength
    have hcount := h.length_le_putAll xs
    rw [getList, putList, List.append_assoc, getLength_putLength (by omega)]
    exact h.getAll_putAll rest xs (by omega)
  pos xs := by
    rw [putList, List.length_append, length_putLength]
    omega

variable [Ord α] [Std.TransOrd α] [Std.LawfulEqOrd α]

theorem set (h : Inverts getKey putKey) : Inverts (getSet getKey) (putSet putKey) where
  read s rest hlength := by
    rw [getSet, putSet, h.list.read s.toList rest hlength]
    show some (Std.ExtTreeSet.ofList s.toList, rest) = _
    rw [ofList_elements]
  pos s := h.list.pos s.toList

theorem map (hkey : Inverts getKey putKey) (hvalue : Inverts getValue putValue) :
    Inverts (getMap getKey getValue) (putMap putKey putValue) where
  read m rest hlength := by
    rw [getMap, putMap, (hkey.pair hvalue).list.read m.toList rest hlength]
    show some (Std.ExtTreeMap.ofList m.toList, rest) = _
    rw [ofList_entries]
  pos m := (hkey.pair hvalue).list.pos m.toList

end Inverts

/-! ## What follows a value -/

/-- A value that is taken from the front is also taken when more follows, which is then left. -/
def Extends (get : Reader α) : Prop :=
  ∀ ⦃bytes x rest⦄, get bytes = some (x, rest) →
    ∀ more, get (bytes ++ more) = some (x, rest ++ more)

namespace Extends

variable {get : Reader α} {getKey : Reader α} {getValue : Reader β}

/-- A value that takes no bytes. -/
theorem pure (x : α) : Extends fun bytes => some (x, bytes) := by
  intro bytes y rest h more
  cases h
  rfl

/-- A value that is taken after another one. -/
theorem bind {next : α → Reader β} (hget : Extends get) (hnext : ∀ x, Extends (next x)) :
    Extends fun bytes => (get bytes).bind fun taken => next taken.1 taken.2 := by
  intro bytes y rest h more
  obtain ⟨⟨x, between⟩, hx, hy⟩ := Option.bind_eq_some_iff.1 h
  simp only [hget hx more, Option.bind_some]
  exact hnext x hy more

/-- A value that is made from the one that is taken. -/
theorem made (f : α → β) (hget : Extends get) :
    Extends fun bytes => (get bytes).bind fun taken => some (f taken.1, taken.2) :=
  hget.bind fun x => pure (f x)

/-! ### Numbers and texts -/

theorem nat : ∀ count, Extends (getNat count)
  | 0 => pure 0
  | count + 1 => by
    intro bytes n rest h more
    cases bytes with
    | nil => cases h
    | cons b bytes =>
      obtain ⟨⟨m, between⟩, hm, hn⟩ := Option.bind_eq_some_iff.1 h
      cases hn
      rw [List.cons_append, getNat, nat count hm more]
      rfl

theorem uint32 : Extends getUInt32 :=
  (nat 4).made UInt32.ofNat

/-- The bytes of a text after its length. -/
theorem utf8 (n : Nat) : Extends fun bytes => if bytes.length < n then none
    else (String.fromUTF8? ⟨(bytes.take n).toArray⟩).bind fun s => some (s, bytes.drop n) := by
  intro bytes s rest h more
  by_cases hshort : bytes.length < n
  · simp only [if_pos hshort] at h
    cases h
  · have hlonger : ¬(bytes ++ more).length < n := by
      rw [List.length_append]
      omega
    have hle : n ≤ bytes.length := by omega
    simp only [if_neg hshort] at h
    obtain ⟨t, ht, hs⟩ := Option.bind_eq_some_iff.1 h
    cases hs
    simp only [if_neg hlonger, List.take_append_of_le_length hle,
      List.drop_append_of_le_length hle, ht, Option.bind_some]

theorem text : Extends getText :=
  (nat 8).bind utf8

/-! ### Values with parts -/

theorem all (hget : Extends get) : ∀ count, Extends (getAll get count)
  | 0 => pure []
  | count + 1 => hget.bind fun x => (all hget count).made (x :: ·)

theorem list (hget : Extends get) : Extends (getList get) :=
  (nat 8).bind hget.all

theorem pair (hkey : Extends getKey) (hvalue : Extends getValue) :
    Extends (getPair getKey getValue) :=
  hkey.bind fun k => hvalue.made (k, ·)

variable [Ord α]

theorem set (hget : Extends get) : Extends (getSet get) :=
  hget.list.made fun xs => Std.ExtTreeSet.ofList xs compare

theorem map (hkey : Extends getKey) (hvalue : Extends getValue) :
    Extends (getMap getKey getValue) :=
  (hkey.pair hvalue).list.made fun entries => Std.ExtTreeMap.ofList entries compare

end Extends

/-- A value whose bytes end too early is not read as any value. -/
theorem Inverts.get_take_eq_none {get : Reader α} {put : α → List UInt8} (h : Inverts get put)
    (hget : Extends get) {x : α} (hlength : (put x).length < 2 ^ 64) {cut : Nat}
    (hcut : cut < (put x).length) : get ((put x).take cut) = none := by
  cases hfound : get ((put x).take cut) with
  | none => rfl
  | some found =>
    -- the same value would be found before what was cut off, of which nothing is left
    have hlonger := hget hfound ((put x).drop cut)
    have hwhole := h.read x [] hlength
    rw [List.take_append_drop, ← List.append_nil (put x), hwhole, Option.some.injEq,
      Prod.mk.injEq] at hlonger
    have hrest := congrArg List.length hlonger.2
    rw [List.append_nil, List.length_append, List.length_drop, List.length_nil] at hrest
    omega

end Concordance.Encoding
