import Concordance.Text.Case

/-!
# Matching without regard to case

Two notions of case meet here. `foldChar` is the simple case folding of Unicode, under which
two characters match if a pattern that ignores case matches one with the other. `firstLower`
is the first character of the lower-case form, which keeps the length of a text, so that
offsets in the lowered text are offsets in the text itself.
-/

namespace Concordance.Text

/-- Small letters and other characters that folding maps differently from lower-casing. -/
def foldExceptions : List (Nat × Nat) := [
  (0xB5, 0x3BC), (0x17F, 0x73), (0x345, 0x3B9), (0x3C2, 0x3C3), (0x3D0, 0x3B2), (0x3D1, 0x3B8),
  (0x3D5, 0x3C6), (0x3D6, 0x3C0), (0x3F0, 0x3BA), (0x3F1, 0x3C1), (0x3F5, 0x3B5), (0x1C80, 0x432),
  (0x1C81, 0x434), (0x1C82, 0x43E), (0x1C83, 0x441), (0x1C84, 0x442), (0x1C85, 0x442),
  (0x1C86, 0x44A), (0x1C87, 0x463), (0x1C88, 0xA64B), (0x1E9B, 0x1E61), (0x1FBE, 0x3B9)]

/-- The simple case folding of a character. The letters of Cherokee fold to capitals, all
others to small letters; the dotted capital I folds to itself. -/
def foldChar (c : Char) : Char :=
  let n := c.toNat
  if n < 0x80 then lowerLetter c
  else if 0x13A0 ≤ n && n ≤ 0x13F5 then c
  else if 0x13F8 ≤ n && n ≤ 0x13FD then Char.ofNat (n - 8)
  else if 0xAB70 ≤ n && n ≤ 0xABBF then Char.ofNat (n - 0xAB70 + 0x13A0)
  else
    match foldExceptions.find? fun e => e.1 == n with
    | some e => Char.ofNat e.2
    | none => lowerLetter c

/-- The first character of the lower-case form of a character. -/
def firstLower (c : Char) : Char :=
  (lowerChar c).headD c

/-- The least offset at which `needle` is the front part of what is left of `s`. -/
def offset? (needle : List Char) : List Char → Option Nat
  | [] => if needle.isEmpty then some 0 else none
  | c :: rest =>
    if needle.isPrefixOf (c :: rest) then some 0 else (offset? needle rest).map (· + 1)

/-- The least offset at which the characters of `needle` agree with those of `s` up to case.
An empty text is found nowhere. -/
def findIgnoringCase (needle s : List Char) : Option Nat :=
  if needle.isEmpty then none else offset? (needle.map firstLower) (s.map firstLower)

end Concordance.Text
