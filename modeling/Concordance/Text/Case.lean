import Concordance.Text.CaseData

/-!
# Lower case

`lower` maps a text to lower case character by character. Two characters are special : the
dotted capital I becomes two characters, and a capital sigma at the end of a word becomes the
final small sigma. A sigma ends a word when a cased letter comes before it and none after it,
where characters that case ignores are skipped on both sides.
-/

namespace Concordance.Text

/-- The lower-case letter of a capital, and every other character itself. -/
def lowerLetter (c : Char) : Char :=
  let n := c.toNat
  if n < 0x80 then (if 0x41 ≤ n && n ≤ 0x5A then Char.ofNat (n + 0x20) else c)
  else
    match lowerRuns.find? (·.covers n) with
    | some run => Char.ofNat ((n : Int) + run.shift).toNat
    | none => c

/-- The lower-case form of a character by itself. Only the dotted capital I has two
characters. -/
def lowerChar (c : Char) : List Char :=
  if c = 'İ' then ['i', '\u0307'] else [lowerLetter c]

/-- Whether the first character of `s` that case does not ignore is a cased letter. -/
def startsCased (s : List Char) : Bool :=
  match s.dropWhile fun c => inRanges ignorableRanges c.toNat with
  | [] => false
  | c :: _ => inRanges casedRanges c.toNat

/-- The form of a capital sigma between the text `before`, which is reversed, and `after`. -/
def lowerSigma (before after : List Char) : Char :=
  if startsCased before && !startsCased after then 'ς' else 'σ'

/-- Lower case of the second list, when the first one, reversed, stands in front of it. -/
def lowerAfter : List Char → List Char → List Char
  | _, [] => []
  | before, c :: rest =>
    (if c = 'Σ' then [lowerSigma before rest] else lowerChar c) ++ lowerAfter (c :: before) rest

/-- The lower-case form of a text. -/
def lowerChars (s : List Char) : List Char :=
  lowerAfter [] s

/-- The lower-case form of a text. -/
def lower (s : String) : String :=
  String.ofList (lowerChars s.toList)

/-- Lower case of the ASCII letters alone. -/
def lowerAscii (s : String) : String :=
  s.map Char.toLower

end Concordance.Text
