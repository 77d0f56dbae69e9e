import Concordance.Listing.Basic
import Mathlib.Data.List.Basic

/-!
# Listings, line by line

A line is refused if it is not blank and cannot be read. A listing is read exactly if no line is
refused, and then the entries of its lines are taken in one after the other (`readLines_eq_ok_iff`);
otherwise the first line that is refused is blamed (`readLines_eq_error_iff`).

So a listing whose lines can all be read is read (`exists_readLines_of_forall`, `readLines_map`),
and what each line that can be read keeps, the whole listing keeps (`readLines_keeps`).
-/

namespace Concordance.Listing

open Text

variable {σ ε α : Type} {read : List Char → Except Reason ε} {add : σ → ε → σ}

/-! ## Refused lines -/

/-- A line is not blank, and cannot be read for a reason. -/
structure Refused (read : List Char → Except Reason ε) (line : List Char) (reason : Reason) :
    Prop where
  /-- The line is not blank. -/
  not_blank : trimChars line ≠ []
  /-- It cannot be read. -/
  error : read line = .error reason

/-- The entry of a line; blank lines have none. -/
def reading? (read : List Char → Except Reason ε) (line : List Char) : Option ε :=
  if (trimChars line).isEmpty then none else (read line).toOption

theorem reading?_eq_some_iff {l : List Char} {entry : ε} :
    reading? read l = some entry ↔ trimChars l ≠ [] ∧ read l = .ok entry := by
  rw [reading?]
  cases htrim : trimChars l with
  | nil => simp
  | cons c s => cases read l <;> simp [Except.toOption]

theorem readLines_of_refused {n : Nat} {acc : σ} {l : List Char} {reason : Reason}
    (h : Refused read l reason) (ls : List (List Char)) :
    readLines read add n acc (l :: ls) = .error ⟨n, reason⟩ := by
  rw [readLines, if_neg (by simpa using h.not_blank), h.error]

/-- A line that is not refused is passed over if it is blank, and otherwise its entry is taken in.
-/
theorem readLines_of_not_refused {n : Nat} {acc : σ} {l : List Char}
    (h : ∀ reason, ¬Refused read l reason) (ls : List (List Char)) :
    readLines read add n acc (l :: ls) =
      readLines read add (n + 1) ((reading? read l).elim acc (add acc)) ls := by
  rw [readLines, reading?]
  cases htrim : trimChars l with
  | nil => rfl
  | cons c s =>
    cases hread : read l with
    | ok entry => rfl
    | error reason => exact absurd ⟨by simp [htrim], hread⟩ (h reason)

/-- Lines are read exactly if none of them is refused, and then their entries are taken in. -/
theorem readLines_eq_ok_iff {ls : List (List Char)} {n : Nat} {acc result : σ} :
    readLines read add n acc ls = .ok result ↔
      (∀ l ∈ ls, ∀ reason, ¬Refused read l reason) ∧ (ls.filterMap (reading? read)).foldl add acc =
        result := by
  induction ls generalizing n acc with
  | nil => simp [readLines]
  | cons l ls ih =>
    by_cases hl : ∃ reason, Refused read l reason
    · obtain ⟨reason, hreason⟩ := hl
      rw [readLines_of_refused hreason]
      exact iff_of_false nofun fun h => h.1 l List.mem_cons_self reason hreason
    · rw [not_exists] at hl
      rw [readLines_of_not_refused hl, ih, List.forall_mem_cons, List.filterMap_cons]
      simp only [hl, not_false_eq_true, implies_true, true_and]
      cases reading? read l <;> rfl

/-- If lines cannot be read, the first one that is refused is blamed. -/
theorem readLines_eq_error_iff {ls : List (List Char)} {n : Nat} {acc : σ} {fault : Fault} :
    readLines read add n acc ls = .error fault ↔ ∃ front line rest, ls = front ++ line :: rest ∧
      fault.line = n + front.length ∧ Refused read line fault.reason ∧
        ∀ l ∈ front, ∀ reason, ¬Refused read l reason := by
  induction ls generalizing n acc with
  | nil => simp [readLines]
  | cons l ls ih =>
    by_cases hl : ∃ reason, Refused read l reason
    · obtain ⟨reason, hreason⟩ := hl
      rw [readLines_of_refused hreason, Except.error.injEq]
      constructor
      · rintro rfl
        exact ⟨[], l, ls, rfl, rfl, hreason, by simp⟩
      · rintro ⟨front, line, rest, heq, hnumber, hline, hfront⟩
        cases front with
        | nil =>
          obtain ⟨rfl, rfl⟩ := List.cons.inj heq
          have hsame := Except.error.inj (hreason.error.symm.trans hline.error)
          cases fault
          simp_all
        | cons first front =>
          obtain ⟨rfl, -⟩ := List.cons.inj heq
          exact absurd hreason (hfront _ List.mem_cons_self reason)
    · rw [not_exists] at hl
      rw [readLines_of_not_refused hl, ih]
      constructor
      · rintro ⟨front, line, rest, rfl, hnumber, hline, hfront⟩
        refine ⟨l :: front, line, rest, rfl, ?_, hline, List.forall_mem_cons.2 ⟨hl, hfront⟩⟩
        rw [hnumber, List.length_cons]
        omega
      · rintro ⟨front, line, rest, heq, hnumber, hline, hfront⟩
        cases front with
        | nil =>
          obtain ⟨rfl, -⟩ := List.cons.inj heq
          exact absurd hline (hl _)
        | cons first front =>
          obtain ⟨rfl, rfl⟩ := List.cons.inj heq
          refine ⟨front, line, rest, rfl, ?_, hline, (List.forall_mem_cons.1 hfront).2⟩
          rw [hnumber, List.length_cons]
          omega

/-! ## Lines that can be read -/

/-- A listing whose lines can all be read is read. -/
theorem exists_readLines_of_forall {ls : List (List Char)} {n : Nat} {acc : σ}
    (h : ∀ l ∈ ls, ∃ entry, read l = .ok entry) :
    ∃ result, readLines read add n acc ls = .ok result := by
  refine ⟨_, readLines_eq_ok_iff.2 ⟨fun l hl reason hrefused => ?_, rfl⟩⟩
  obtain ⟨entry, hread⟩ := h l hl
  cases hread.symm.trans hrefused.error

/-- Lines that all can be read are read one after the other. -/
theorem readLines_map {line : α → List Char} (entry : α → ε) (xs : List α) (n : Nat) (acc : σ)
    (h : ∀ x ∈ xs, trimChars (line x) ≠ [] ∧ read (line x) = .ok (entry x)) :
    readLines read add n acc (xs.map line) = .ok ((xs.map entry).foldl add acc) := by
  refine readLines_eq_ok_iff.2 ⟨fun l hl reason hrefused => ?_, ?_⟩
  · obtain ⟨x, hx, rfl⟩ := List.mem_map.1 hl
    cases (h x hx).2.symm.trans hrefused.error
  · have hentries : xs.filterMap (reading? read ∘ line) = xs.map entry :=
      List.filterMap_eq_map_iff_forall_eq_some.2 fun x hx => reading?_eq_some_iff.2 (h x hx)
    rw [List.filterMap_map, hentries]

/-- What every line that can be read keeps, the whole listing keeps. -/
theorem readLines_keeps (Keeps : σ → Prop) {ls : List (List Char)} {n : Nat} {acc result : σ}
    (hadd : ∀ l ∈ ls, ∀ acc entry, read l = .ok entry → Keeps acc → Keeps (add acc entry))
    (hacc : Keeps acc) (h : readLines read add n acc ls = .ok result) : Keeps result := by
  obtain ⟨-, rfl⟩ := readLines_eq_ok_iff.1 h
  refine List.foldlRecOn _ add hacc fun acc hacc entry hentry => ?_
  obtain ⟨l, hl, hread⟩ := List.mem_filterMap.1 hentry
  exact hadd l hl acc entry (reading?_eq_some_iff.1 hread).2 hacc

end Concordance.Listing
