import Concordance.Number.Hex
import Concordance.Text.Blank
import Concordance.Text.NormalData
import Std.Data.HashMap

/-!
# Normal forms

Canonical and compatibility composition. A text is decomposed, its marks are put into the
order of their combining classes, and then each starter takes up the marks it composes with.

ASCII and the basic Cyrillic letters are settled : a text of them alone is its own normal
form (`nfkc_eq_self`), and is returned without any look-up.
-/

namespace Concordance.Text

/-! ## Data -/

/-- The characters that hexadecimal numerals between blanks spell. -/
def readCodePoints (s : List Char) : List Char :=
  (wordChars s).map fun digits => Char.ofNat (Hex.value digits)

/-- The entries of a table of decompositions with the separator `sep` : a character and its
parts. -/
def readDecompositions (sep : Char) (table : List String) : List (Char × List Char) :=
  (table.flatMap fun line => fieldChars ';' line.toList).filterMap fun entry =>
    (splitFirst? sep entry).map fun p => (Char.ofNat (Hex.value p.1), readCodePoints p.2)

/-- Canonical decompositions whose parts compose again. -/
def composites : List (Char × List Char) :=
  readDecompositions '=' canonicalText

/-- A table of decompositions, found by code point. -/
def byCodePoint (table : List (Char × List Char)) : Std.HashMap Nat (List Char) :=
  Std.HashMap.ofList (table.map fun entry => (entry.1.toNat, entry.2))

/-- Canonical decompositions of one step. -/
def canonicalMap : Std.HashMap Nat (List Char) :=
  byCodePoint (composites ++ readDecompositions '!' canonicalText)

/-- Full compatibility decompositions. -/
def compatibilityMap : Std.HashMap Nat (List Char) :=
  byCodePoint (readDecompositions '=' compatibilityText)

/-- Primary composites, found by the code points of their two parts. -/
def compositeMap : Std.HashMap (Nat × Nat) Char :=
  Std.HashMap.ofList (composites.filterMap fun
    | (c, [a, b]) => some ((a.toNat, b.toNat), c)
    | _ => none)

/-- The combining class of a character; zero for a starter. -/
def combiningClass (c : Char) : Nat :=
  let n := c.toNat
  if n < 0x300 then 0
  else (combiningRanges.find? fun r => r.1 ≤ n && n ≤ r.2.1).elim 0 fun r => r.2.2

/-! ## Decomposition -/

/-- The letters of a Hangul syllable, by arithmetic on the block of syllables. -/
def hangulLetters? (c : Char) : Option (List Char) :=
  let n := c.toNat
  if 0xAC00 ≤ n && n < 0xAC00 + 11172 then
    let s := n - 0xAC00
    let lead := Char.ofNat (0x1100 + s / 588)
    let vowel := Char.ofNat (0x1161 + s % 588 / 28)
    let tail := s % 28
    some (if tail = 0 then [lead, vowel] else [lead, vowel, Char.ofNat (0x11A7 + tail)])
  else none

/-- One step of canonical decomposition. -/
def canonicalStep (c : Char) : List Char :=
  match hangulLetters? c with
  | some letters => letters
  | none => canonicalMap[c.toNat]?.getD [c]

/-- The full canonical decomposition; no character needs more than four steps. -/
def canonicalParts (c : Char) : List Char :=
  (((canonicalStep c).flatMap canonicalStep).flatMap canonicalStep).flatMap canonicalStep

/-- The full compatibility decomposition. -/
def compatibilityParts (c : Char) : List Char :=
  (canonicalParts c).flatMap fun d => compatibilityMap[d.toNat]?.getD [d]

/-! ## Order of marks -/

/-- Put a mark of class `k` in front of `s`, behind the marks of lower classes. -/
def insertMark (k : Nat) (c : Char) : List Char → List Char
  | [] => [c]
  | d :: rest =>
    if 0 < combiningClass d && combiningClass d < k then d :: insertMark k c rest
    else c :: d :: rest

/-- Sort each run of marks by combining class; marks of one class keep their order. -/
def orderMarks (s : List Char) : List Char :=
  s.foldr (fun c acc =>
    let k := combiningClass c
    if k = 0 then c :: acc else insertMark k c acc) []

/-! ## Composition -/

/-- The primary composite of two characters. -/
def compositePair? (a b : Char) : Option Char :=
  let m := a.toNat
  let n := b.toNat
  if 0x1100 ≤ m && m < 0x1113 && 0x1161 ≤ n && n < 0x1176 then
    some (Char.ofNat (0xAC00 + ((m - 0x1100) * 21 + (n - 0x1161)) * 28))
  else if 0xAC00 ≤ m && m < 0xAC00 + 11172 && (m - 0xAC00) % 28 == 0 &&
      0x11A8 ≤ n && n < 0x11C3 then
    some (Char.ofNat (m + (n - 0x11A7)))
  else compositeMap[(m, n)]?

/-- A text composed so far. -/
structure Composition where
  /-- The finished characters, reversed. -/
  done : List Char
  /-- The starter that can still take up marks. -/
  starter : Option Char
  /-- The marks behind the starter that it did not take up, reversed. -/
  marks : List Char

/-- The characters of a composition, reversed. -/
def Composition.reversed (s : Composition) : List Char :=
  s.marks ++ (s.starter.toList ++ s.done)

/-- Take in one more character : the starter takes it up if nothing between them blocks it and
the two have a composite. -/
def composeStep (s : Composition) (c : Char) : Composition :=
  let k := combiningClass c
  let blocked :=
    match s.marks with
    | [] => false
    | m :: _ => k ≤ combiningClass m
  match s.starter with
  | none => if k = 0 then { s with starter := some c } else { s with done := c :: s.done }
  | some a =>
    match if blocked then none else compositePair? a c with
    | some d => { s with starter := some d }
    | none =>
      if k = 0 then ⟨s.reversed, some c, []⟩ else { s with marks := c :: s.marks }

/-- Compose a decomposed and ordered text. -/
def compose (s : List Char) : List Char :=
  (s.foldl composeStep ⟨[], none, []⟩).reversed.reverse

/-! ## Normal forms -/

/-- Starters that neither decompose nor compose with a settled character before them. -/
def isSettled (c : Char) : Bool :=
  let n := c.toNat
  n < 0xA0 || (0x400 ≤ n && n < 0x483)

/-- Canonical composition. -/
def nfc (s : List Char) : List Char :=
  if s.all isSettled then s else compose (orderMarks (s.flatMap canonicalParts))

/-- Compatibility composition. -/
def nfkc (s : List Char) : List Char :=
  if s.all isSettled then s else compose (orderMarks (s.flatMap compatibilityParts))

/-- Settled texts are in normal form. -/
theorem nfkc_eq_self {s : List Char} (h : ∀ c ∈ s, isSettled c) : nfkc s = s := by
  simp only [nfkc, List.all_eq_true.mpr h, if_true]

end Concordance.Text
