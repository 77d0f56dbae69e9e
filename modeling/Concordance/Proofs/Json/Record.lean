import Concordance.Json.Record
import Concordance.Proofs.Json.Quoted
import Concordance.Proofs.Text.Lines

/-!
# Records, written and read

Inside an object each value stands behind a blank and in front of a comma or a line break; there a
value is read back if its reader gives it and leaves what follows (`ReadsBack`). If the values of
all members are read back one after the other (`Taken`), so is the object (`readsBack_object`).
-/

namespace Concordance.Json

open Listing Text

/-! ## Blanks -/

theorem skipGaps_cons_gap {c : Char} (h : isGap c = true) (s : List Char) :
    skipGaps (c :: s) = skipGaps s :=
  List.dropWhile_cons_of_pos h

theorem skipGaps_cons {c : Char} (h : isGap c = false) (s : List Char) :
    skipGaps (c :: s) = c :: s :=
  List.dropWhile_cons_of_neg (by simp [h])

theorem skipGaps_indentation (depth : Nat) (s : List Char) :
    skipGaps (indentation depth ++ s) = skipGaps s :=
  List.dropWhile_append_of_pos fun c hc => by
    rw [List.eq_of_mem_replicate hc]
    rfl

theorem skipChar_cons {c d : Char} (h : isGap d = false) (s : List Char) :
    skipChar c (d :: s) = if d = c then some s else none := by
  rw [skipChar, skipGaps_cons h]

theorem skipChar_cons_gap {c d : Char} (h : isGap d = true) (s : List Char) :
    skipChar c (d :: s) = skipChar c s := by
  rw [skipChar, skipChar, skipGaps_cons_gap h]

theorem skipChar_indentation (c : Char) (depth : Nat) (s : List Char) :
    skipChar c (indentation depth ++ s) = skipChar c s := by
  rw [skipChar, skipChar, skipGaps_indentation]

/-! ## Values -/

/-- What may stand behind a value in an object. -/
inductive FollowsValue : List Char → Prop
  /-- Another member. -/
  | comma (rest : List Char) : FollowsValue (',' :: rest)
  /-- The end of the object. -/
  | feed (rest : List Char) : FollowsValue ('\n' :: rest)

variable {α σ : Type} {x : α} {read : Reader α} {value : List Char}

/-- In an object, `value` is read as `x`. -/
def ReadsBack (read : Reader α) (value : List Char) (x : α) : Prop :=
  ∀ rest, FollowsValue rest → read (' ' :: (value ++ rest)) = some (x, rest)

theorem readText_encode (s : String) (rest : List Char) :
    readText (Quoted.encode s.toList ++ rest) = some (s, rest) := by
  have hquote : skipGaps (Quoted.encode s.toList ++ rest) = Quoted.encode s.toList ++ rest := by
    rw [Quoted.encode, List.cons_append, skipGaps_cons (by decide)]
  rw [readText, hquote, Quoted.decode_encode]
  show some (String.ofList s.toList, rest) = _
  rw [String.ofList_toList]

theorem readText_gap {c : Char} (h : isGap c = true) (s : List Char) :
    readText (c :: s) = readText s := by
  rw [readText, readText, skipGaps_cons_gap h]

theorem readsBack_text (s : String) : ReadsBack readText (Quoted.encode s.toList) s :=
  fun rest _ => (readText_gap (by decide) _).trans (readText_encode s rest)

/-- A text that may be missing is read back; the word for a missing one is not quoted. -/
theorem readsBack_optional (text : Option String) :
    ReadsBack readOptional (writeOptional text) text := by
  intro rest _
  cases text with
  | none => rfl
  | some s =>
    have hquote : skipGaps (' ' :: (Quoted.encode s.toList ++ rest)) =
        Quoted.encode s.toList ++ rest := by
      rw [skipGaps_cons_gap (by decide), Quoted.encode, List.cons_append, skipGaps_cons (by decide)]
    have hread := readText_encode s rest
    rw [writeOptional, readOptional, hquote]
    rw [Quoted.encode, List.cons_append] at hread ⊢
    show ((readText _).bind fun _ => _) = _
    rw [hread]
    rfl

/-! ## Numbers -/

theorem isNumeric_digits (n : Nat) : ∀ c ∈ Decimal.digits n, isNumeric c = true := by
  have hdigit : ∀ d : Fin 10, isNumeric (Decimal.digit d) = true := by decide
  intro c hc
  obtain ⟨d, rfl⟩ := Decimal.exists_digit_of_mem hc
  exact hdigit d

/-- Only the numeral of zero begins with a zero. -/
theorem head?_digits_ne {n : Nat} (h : n ≠ 0) : (Decimal.digits n).head? ≠ some '0' := by
  have hdigit : ∀ d : Fin 10, d.val ≠ 0 → Decimal.digit d ≠ '0' := by decide
  induction n using Nat.strongRecOn with
  | ind n ih =>
    rw [Decimal.digits]
    split
    · next hlt => simpa using hdigit ⟨n, hlt⟩ h
    · obtain ⟨c, s, hs⟩ := List.exists_cons_of_ne_nil (Decimal.digits_ne_nil (n / 10))
      have hhead := ih (n / 10) (by omega) (by omega)
      rw [hs] at hhead ⊢
      exact hhead

theorem readsBack_uint32 (n : UInt32) : ReadsBack readUInt32 (Decimal.digits n.toNat) n := by
  intro rest hrest
  have hend : rest.takeWhile isNumeric = [] ∧ rest.dropWhile isNumeric = rest := by
    cases hrest <;> exact ⟨rfl, rfl⟩
  have hnumeric := isNumeric_digits n.toNat
  have hskip : skipGaps (' ' :: (Decimal.digits n.toNat ++ rest)) = Decimal.digits n.toNat ++ rest := by
    obtain ⟨c, s, hs⟩ := List.exists_cons_of_ne_nil (Decimal.digits_ne_nil n.toNat)
    rw [skipGaps_cons_gap (by decide), hs, List.cons_append]
    refine skipGaps_cons (Bool.eq_false_iff.2 fun hgap => ?_) _
    have hc : isNumeric c = true := hnumeric c (by rw [hs]; exact List.mem_cons_self)
    simp only [isGap, Bool.or_eq_true, beq_iff_eq] at hgap
    rcases hgap with ((rfl | rfl) | rfl) | rfl <;> exact absurd hc (by decide)
  have htake : (Decimal.digits n.toNat ++ rest).takeWhile isNumeric = Decimal.digits n.toNat := by
    rw [List.takeWhile_append_of_pos hnumeric, hend.1, List.append_nil]
  have hdrop : (Decimal.digits n.toNat ++ rest).dropWhile isNumeric = rest := by
    rw [List.dropWhile_append_of_pos hnumeric, hend.2]
  have hzero : ¬((Decimal.digits n.toNat).head? = some '0' ∧ Decimal.digits n.toNat ≠ ['0']) := by
    rintro ⟨hhead, hne⟩
    refine head?_digits_ne (fun hnil => hne ?_) hhead
    rw [hnil, Decimal.digits]
    rfl
  have hvalue : (Decimal.readDigits? (Decimal.digits n.toNat)).filter (· < UInt32.size) =
      some n.toNat := by
    rw [Decimal.readDigits?_digits, Option.filter_some, if_pos (by simpa using n.toNat_lt_size)]
  rw [readUInt32, hskip]
  simp only [htake, hdrop, if_neg hzero, hvalue, Option.bind_eq_bind, Option.bind_some]
  rw [UInt32.ofNat_toNat]
  rfl

/-! ## Members -/

theorem ReadsBack.member {old : σ → Option α} {keep : σ → α → σ} {acc : σ}
    (h : ReadsBack read value x) (hnew : old acc = none) :
    ReadsBack (member old read keep acc) value (keep acc x) := by
  intro rest hrest
  rw [Json.member, hnew, Option.isSome_none, if_neg (by decide), h rest hrest]
  rfl

/-- The members that are written take what is known of a record from one state to another. -/
inductive Taken (members : List (String × Member σ)) : σ → List (String × List Char) → σ → Prop
  /-- Nothing is written. -/
  | nil (acc : σ) : Taken members acc [] acc
  /-- A known member is written and read back. -/
  | cons {acc next last : σ} {name : String} {value : List Char} {read : Member σ}
      {written : List (String × List Char)} (known : members.lookup name = some read)
      (value_back : ReadsBack (read acc) value next) (rest : Taken members next written last) :
      Taken members acc ((name, value) :: written) last

variable {members : List (String × Member σ)} {acc last : σ} {written : List (String × List Char)}

/-- The line of a member. -/
def memberLine (depth : Nat) (m : String × List Char) : List Char :=
  indentation depth ++ Quoted.encode m.1.toList ++ ':' :: ' ' :: m.2

theorem exists_joinWith_cons (separator p : List Char) (parts : List (List Char)) :
    ∃ tail, joinWith separator (p :: parts) = p ++ tail := by
  cases parts with
  | nil => exact ⟨[], by simp⟩
  | cons q parts => exact ⟨_, by rw [joinWith_cons_cons, List.append_assoc]⟩

/-- Behind a line break, a line is read as far as its value. -/
theorem readNamed_memberLine {name : String} {read : Member σ} {next : σ} {depth : Nat}
    {rest : List Char} (known : members.lookup name = some read)
    (hvalue : ReadsBack (read acc) value next) (hrest : FollowsValue rest) :
    readNamed members acc ('\n' :: (memberLine depth (name, value) ++ rest)) = some (next, rest) := by
  have hname : readText ('\n' :: (memberLine depth (name, value) ++ rest)) =
      some (name, ':' :: ' ' :: (value ++ rest)) := by
    rw [← readText_encode name, readText_gap (by decide), readText, readText, memberLine]
    simp only [List.append_assoc, List.cons_append, skipGaps_indentation]
  rw [readNamed, hname]
  simp only [Option.bind_eq_bind, Option.bind_some, skipChar_cons (d := ':') (by decide), if_true,
    known]
  exact hvalue rest hrest

/-- The lines of an object behind a line break are read up to its end. -/
theorem readMembers_lines {depth : Nat} (h : Taken members acc written last) (hne : written ≠ [])
    (rest : List Char) : ∀ {steps : Nat}, written.length ≤ steps →
    readMembers members steps acc ('\n' :: (joinWith [',', '\n'] (written.map (memberLine (depth + 1))) ++
      '\n' :: (indentation depth ++ '\x7d' :: rest))) = some (last, rest) := by
  induction h with
  | nil => exact absurd rfl hne
  | @cons acc next last name value read written known hvalue htaken ih =>
    rintro (_ | steps) hsteps
    · exact absurd hsteps (Nat.not_succ_le_zero _)
    cases written with
    | nil =>
      cases htaken
      rw [List.map_singleton, joinWith_singleton, readMembers,
        readNamed_memberLine known hvalue (.feed _)]
      simp only [Option.bind_eq_bind, Option.bind_some, skipChar_cons_gap (d := '\n') (by decide),
        skipChar_indentation, skipChar_cons (d := '\x7d') (by decide)]
      rfl
    | cons other written =>
      rw [List.map_cons, List.map_cons, joinWith_cons_cons, readMembers]
      simp only [List.append_assoc, List.cons_append, List.nil_append]
      rw [readNamed_memberLine known hvalue (.comma _)]
      simp only [Option.bind_eq_bind, Option.bind_some, skipChar_cons (d := ',') (by decide), if_true]
      exact ih (List.cons_ne_nil _ _) (Nat.le_of_succ_le_succ hsteps)

theorem length_le_joinWith (parts : List (List Char)) :
    parts.length ≤ (joinWith [',', '\n'] parts).length + 1 := by
  induction parts with
  | nil => exact Nat.zero_le _
  | cons p parts ih =>
    cases parts with
    | nil => exact Nat.succ_le_succ (Nat.zero_le _)
    | cons q parts =>
      rw [joinWith_cons_cons]
      simp only [List.length_append, List.length_cons, List.length_nil] at ih ⊢
      omega

/-- An object is read back if its members are. -/
theorem readRecord_object (depth : Nat) (h : Taken members acc written last) (hne : written ≠ [])
    (rest : List Char) :
    readRecord members acc (writeObject depth written ++ rest) = some (last, rest) := by
  have hobject : writeObject depth written ++ rest =
      '\x7b' :: '\n' :: (joinWith [',', '\n'] (written.map (memberLine (depth + 1))) ++
        '\n' :: (indentation depth ++ '\x7d' :: rest)) := by
    show '\x7b' :: '\n' :: (joinWith [',', '\n'] (written.map (memberLine (depth + 1))) ++
      '\n' :: indentation depth ++ ['\x7d']) ++ rest = _
    simp only [List.append_assoc, List.cons_append, List.nil_append]
  have hfirst : skipChar '\x7d' ('\n' :: (joinWith [',', '\n'] (written.map (memberLine (depth + 1))) ++
      '\n' :: (indentation depth ++ '\x7d' :: rest))) = none := by
    obtain ⟨m, ms, rfl⟩ := List.exists_cons_of_ne_nil hne
    obtain ⟨tail, htail⟩ := exists_joinWith_cons [',', '\n'] (memberLine (depth + 1) m)
      (ms.map (memberLine (depth + 1)))
    rw [skipChar_cons_gap (by decide), List.map_cons, htail, memberLine]
    simp only [List.append_assoc, skipChar_indentation, Quoted.encode, List.cons_append,
      skipChar_cons (d := '"') (by decide)]
    rfl
  have hsteps := length_le_joinWith (written.map (memberLine (depth + 1)))
  rw [List.length_map] at hsteps
  rw [hobject, readRecord, skipGaps_cons (by decide)]
  simp only [hfirst]
  refine readMembers_lines h hne rest ?_
  simp only [List.length_append, List.length_cons]
  omega

/-- An object that is a value is read back if its members are. -/
theorem readsBack_object {depth : Nat} (h : Taken members acc written last) (hne : written ≠ []) :
    ReadsBack (readRecord members acc) (writeObject depth written) last := fun rest _ => by
  have hread := readRecord_object depth h hne rest
  rw [readRecord] at hread ⊢
  rwa [skipGaps_cons_gap (by decide)]

end Concordance.Json
