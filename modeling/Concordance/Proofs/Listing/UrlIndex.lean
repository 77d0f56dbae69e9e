import Concordance.Listing.UrlIndex
import Concordance.Proofs.Contents
import Concordance.Proofs.Listing.Basic
import Concordance.Proofs.Text.Lines

/-!
# Address listings, written and read

A line is trimmed and cut at its first space (`readLine_eq_ok_iff`). The number in front of it has
no space, so an address may hold spaces of its own. Addresses that are trimmed and stand on one line
are read back from their listing (`parse_render`).

Only such addresses are read from any text (`isEntry_of_parse`) : the last character of a trimmed
line is not a blank, so behind a space there is an address. What has been read from a text is
therefore listed and read again without a change (`urls_roundTrip`).
-/

namespace Concordance.UrlIndex

open Listing Text

variable {entry : DocId × String} {urls : Std.ExtTreeMap DocId String}

/-! ## Single lines -/

/-- The line of one address without its line feed. -/
def entryLine (entry : DocId × String) : List Char :=
  Decimal.digits entry.1.toNat ++ ' ' :: entry.2.toList

theorem renderLine_eq (entry : DocId × String) : renderLine entry = entryLine entry ++ ['\n'] := rfl

/-- A numeral holds neither blanks nor line feeds. -/
theorem isWord_digits (n : Nat) : IsWord (Decimal.digits n) where
  ne_nil := Decimal.digits_ne_nil n
  not_blank c hc := by
    have hdigit : ∀ d : Fin 10, isBlank (Decimal.digit d) = false := by decide
    obtain ⟨d, rfl⟩ := Decimal.exists_digit_of_mem hc
    exact hdigit d

theorem not_mem_digits {c : Char} (hblank : isBlank c = true) (n : Nat) : c ∉ Decimal.digits n :=
  fun hmem => Bool.false_ne_true (((isWord_digits n).not_blank c hmem).symm.trans hblank)

/-- A number and an address make an entry of the listing. -/
theorem isEntry_entryLine (h : IsEntry entry.2.toList) : IsEntry (entryLine entry) where
  ne_nil := by simp [entryLine]
  trimmed := by
    have hnumber := isWord_digits entry.1.toNat
    refine trimBy_eq_self (fun c hc => ?_) fun c hc => ?_
    · have hhead : (entryLine entry).head? = (Decimal.digits entry.1.toNat).head? := by
        simp [entryLine, List.head?_append, List.head?_eq_some_head hnumber.ne_nil]
      rw [hhead] at hc
      exact hnumber.not_blank c (List.mem_of_head? hc)
    · have hlast : (entryLine entry).getLast? = entry.2.toList.getLast? := by
        simp [entryLine, List.getLast?_append, List.getLast?_cons,
          List.getLast?_eq_some_getLast h.ne_nil]
      rw [hlast, ← h.trimmed] at hc
      exact not_of_getLast?_trimBy hc
  no_feed := by
    have hnumber : '\n' ∉ Decimal.digits entry.1.toNat := not_mem_digits (by decide) _
    simp [entryLine, hnumber, h.no_feed]

/-- A line is trimmed and cut at its first space : a number stands in front of it, and an address
behind it. -/
theorem readLine_eq_ok_iff {line : List Char} :
    readLine line = .ok entry ↔ ∃ number rest, trimChars line = number ++ ' ' :: rest ∧
      ' ' ∉ number ∧ Decimal.readUInt32? number = some entry.1 ∧
        entry.2 = String.ofList (trimChars rest) := by
  constructor
  · intro h
    rw [readLine] at h
    split at h
    · cases h
    · next number rest hsplit =>
      obtain ⟨hline, hspace⟩ := splitFirst?_eq_some_iff.1 hsplit
      split at h
      · cases h
      · next id hid =>
        cases h
        exact ⟨number, rest, hline, hspace, hid, rfl⟩
  · rintro ⟨number, rest, hline, hspace, hid, haddress⟩
    rw [readLine, hline, splitFirst?_append hspace]
    simp only [hid, ← haddress]

/-- A line is read back. -/
theorem readLine_entryLine (h : IsEntry entry.2.toList) : readLine (entryLine entry) = .ok entry := by
  have hspace : ' ' ∉ Decimal.digits entry.1.toNat := not_mem_digits (by decide) _
  refine readLine_eq_ok_iff.2 ⟨_, _, (isEntry_entryLine h).trimmed, hspace,
    Decimal.readUInt32?_digits entry.1, ?_⟩
  rw [h.trimmed, String.ofList_toList]

/-- Behind a space of a trimmed line there is more than blanks. -/
theorem trimChars_ne_nil_of_trimChars_eq {line front rest : List Char}
    (h : trimChars line = front ++ ' ' :: rest) : trimChars rest ≠ [] := by
  have hlast : (trimChars line).getLast? = some ((' ' :: rest).getLast (List.cons_ne_nil _ _)) := by
    rw [h, List.getLast?_append, List.getLast?_eq_some_getLast (List.cons_ne_nil _ _), Option.some_or]
  have hblank := not_of_getLast?_trimBy hlast
  have hmem : (' ' :: rest).getLast (List.cons_ne_nil _ _) ∈ rest := by
    refine (List.mem_cons.1 (List.getLast_mem _)).resolve_left fun hspace => ?_
    rw [hspace] at hblank
    exact absurd hblank (by decide)
  exact List.ne_nil_of_mem (mem_trimChars_of_not_blank hmem hblank)

/-- The address on a line is an entry. -/
theorem isEntry_of_readLine {line : List Char} (hfeed : '\n' ∉ line)
    (h : readLine line = .ok entry) : IsEntry entry.2.toList := by
  obtain ⟨number, rest, hline, -, -, haddress⟩ := readLine_eq_ok_iff.1 h
  rw [haddress, String.toList_ofList]
  refine isEntry_trimChars (trimChars_ne_nil_of_trimChars_eq hline) fun hmem => hfeed ?_
  have hrest : '\n' ∈ trimChars line := by
    rw [hline]
    exact List.mem_append_right _ (List.mem_cons_of_mem _ hmem)
  exact mem_of_mem_trimBy hrest

/-! ## Whole listings -/

/-- The listing has one line for each address. -/
theorem lineChars_render (h : ∀ entry ∈ urls.toList, IsEntry entry.2.toList) :
    lineChars (render urls).toList = urls.toList.map entryLine := by
  have hrender : (render urls).toList = (urls.toList.map entryLine).flatMap fun l => l ++ ['\n'] := by
    rw [render, String.toList_ofList, List.flatMap_map]
    rfl
  rw [hrender]
  refine lineChars_flatMap fun l hl => ?_
  obtain ⟨entry, hentry, rfl⟩ := List.mem_map.1 hl
  exact (isEntry_entryLine (h entry hentry)).isLine

/-- Addresses are read back from their listing. -/
theorem parse_render (h : ∀ entry ∈ urls.toList, IsEntry entry.2.toList) :
    parse (render urls) = .ok urls := by
  rw [parse, lineChars_render h, readLines_map id]
  · rw [List.map_id, ← Std.ExtTreeMap.ofList_eq_foldl, ofList_entries]
  · intro entry hentry
    have hline := isEntry_entryLine (h entry hentry)
    exact ⟨hline.trimmed.symm ▸ hline.ne_nil, readLine_entryLine (h entry hentry)⟩

/-- A listing gives entries only. -/
theorem isEntry_of_parse {text : String} (h : parse text = .ok urls) :
    ∀ entry ∈ urls.toList, IsEntry entry.2.toList := by
  refine readLines_keeps (fun urls => ∀ entry ∈ urls.toList, IsEntry entry.2.toList) ?_ ?_ h
  · intro line hline acc new hread hacc entry hentry
    rw [Std.ExtTreeMap.mem_toList_iff_getElem?_eq_some, Std.ExtTreeMap.getElem?_insert] at hentry
    split at hentry
    · rw [← Option.some.inj hentry]
      exact isEntry_of_readLine (not_mem_of_mem_lineChars hline) hread
    · exact hacc entry (Std.ExtTreeMap.mem_toList_iff_getElem?_eq_some.2 hentry)
  · intro entry hentry
    have hget := Std.ExtTreeMap.mem_toList_iff_getElem?_eq_some.1 hentry
    simp at hget

/-- Addresses are read back from their own listing exactly if they are entries, and no listing gives
others. So the listing of what was read is read as the same addresses, whatever text they were read
from. -/
theorem urls_roundTrip (urls : Std.ExtTreeMap DocId String) :
    (parse (render urls) = .ok urls ↔ ∀ entry ∈ urls.toList, IsEntry entry.2.toList) ∧
    ((∃ text, parse text = .ok urls) ↔ ∀ entry ∈ urls.toList, IsEntry entry.2.toList) ∧
    ∀ text, parse text = .ok urls → parse (render urls) = .ok urls := by
  refine ⟨⟨isEntry_of_parse, parse_render⟩, ⟨?_, fun h => ⟨_, parse_render h⟩⟩, ?_⟩
  · rintro ⟨text, h⟩
    exact isEntry_of_parse h
  · exact fun text h => parse_render (isEntry_of_parse h)

/-- Signs, zeros and blanks around a number are dropped, and the last line of a number counts. -/
example :
    (parse "2 https://b.example\n\n\t+007   https://a.example/x y \r\n02 c").toOption.map render =
      some "2 c\n7 https://a.example/x y\n" := by decide +kernel

end Concordance.UrlIndex
