import Concordance.Text.Fold
import Concordance.Text.Normal
import Concordance.Url.HostData
import Concordance.Url.Punycode

/-!
# Names of hosts

A host name is brought into one form before it is used : letters are folded, compatible
characters unified, and labels with characters beyond ASCII written in Punycode behind `xn--`.
A label in this form stands for the label it was made from, so it must be one that the mapping
leaves as it is. Labels may not begin with a mark, an invisible joiner must stand where it has
an effect, and if any letter is written from right to left, the directions in each label must
agree.
-/

namespace Concordance.Url.Domain

open Text

/-! ## Mapping of characters -/

/-- A part of a decomposed character in its folded form; the ideographic full stop separates
labels like the full stop. -/
def foldPart (c : Char) : Char :=
  if c = '。' then '.' else foldChar c

/-- What a character of a host name becomes, unless it is disallowed. -/
def mapChar (c : Char) : Option (List Char) :=
  let n := c.toNat
  if n < 0x80 then some [foldChar c]
  else if inRanges HostData.disallowed n then none
  else if inRanges HostData.ignored n then some []
  else if c = 'ς' || n = 0x200C || n = 0x200D then some [c]
  else some (nfc ((compatibilityParts c).map foldPart))

/-- A name with all its characters mapped. -/
def mapName (name : List Char) : Option (List Char) := do
  return nfc (← name.mapM mapChar).flatten

/-! ## Joiners -/

/-- The combining class of signs that suppress a vowel. -/
def viramaClass : Nat := 9

/-- Whether letters join across what stands before and behind; `before` is reversed. -/
def joins (before behind : List Char) : Bool :=
  let isTransparent := fun c => inRanges HostData.nonspacing (Char.toNat c)
  match before.dropWhile isTransparent, behind.dropWhile isTransparent with
  | a :: _, b :: _ =>
    (inRanges HostData.dualJoining a.toNat || inRanges HostData.leftJoining a.toNat) &&
      (inRanges HostData.dualJoining b.toNat || inRanges HostData.rightJoining b.toNat)
  | _, _ => false

/-- Whether every joiner has an effect : it stands behind a sign that suppresses a vowel, or, if
it keeps letters apart, between letters that would join. `before` is reversed. -/
def joinersFit : (before rest : List Char) → Bool
  | _, [] => true
  | before, c :: rest =>
    let behindVirama := (before.head?.map combiningClass) == some viramaClass
    let fits :=
      if c.toNat = 0x200C then behindVirama || joins before rest
      else if c.toNat = 0x200D then behindVirama
      else true
    fits && joinersFit (c :: before) rest

/-! ## Directions -/

/-- How a character behaves where both directions of writing meet. -/
inductive Direction
  /-- A letter written from left to right. -/
  | left
  /-- A letter written from right to left. -/
  | right
  /-- An Arabic digit. -/
  | arabicDigit
  /-- A European digit. -/
  | europeanDigit
  /-- A mark, which takes the direction of its letter. -/
  | mark
  /-- A sign that takes the direction around it. -/
  | neutral
  deriving Repr, DecidableEq

/-- The direction of a character. -/
def direction (c : Char) : Direction :=
  let n := c.toNat
  if n < 0x80 then
    if c.isAlpha then .left else if c.isDigit then .europeanDigit else .neutral
  else if inRanges HostData.rightToLeft n || inRanges HostData.arabicLetters n then .right
  else if inRanges HostData.nonspacing n then .mark
  else if inRanges HostData.arabicDigits n then .arabicDigit
  else if inRanges HostData.europeanDigits n then .europeanDigit
  else if inRanges HostData.europeanSeparators n || inRanges HostData.commonSeparators n ||
      inRanges HostData.europeanTerminators n || inRanges HostData.neutrals n ||
      n = 0x200C || n = 0x200D then .neutral
  else .left

/-- Whether a label has a character that is written from right to left. -/
def isMixed (label : List Char) : Bool :=
  label.any fun c => direction c == .right || direction c == .arabicDigit

/-- Whether the directions in a label agree. -/
def directionsAgree (label : List Char) : Bool :=
  let ds := label.map direction
  let last := (ds.reverse.dropWhile (· == .mark)).head?
  match ds.head? with
  | none => true
  | some .right =>
    !ds.contains .left && !(ds.contains .europeanDigit && ds.contains .arabicDigit) &&
      (last == some .right || last == some .europeanDigit || last == some .arabicDigit)
  | some .left =>
    !ds.contains .right && !ds.contains .arabicDigit &&
      (last == some .left || last == some .europeanDigit)
  | some _ => false

/-! ## Labels -/

/-- What stands in front of a label in Punycode. -/
def acePrefix : List Char := "xn--".toList

/-- Whether a label is one that the mapping leaves as it is. -/
def isMapped (label : List Char) : Bool :=
  label.all (fun c => mapChar c == some [c]) && nfc label == label

/-- Whether a label that is not ASCII may stand in a name. -/
def isValid (label : List Char) : Bool :=
  !(label.head?.any fun c => inRanges HostData.marks c.toNat) && joinersFit [] label

/-- The label that a part of a mapped name stands for. -/
def readLabel (part : List Char) : Option (List Char) :=
  if acePrefix.isPrefixOf part then do
    let label ← Punycode.decode? (part.drop acePrefix.length)
    if label.all Punycode.isAscii || !isMapped label || !isValid label || label.contains '.'
    then none
    else return label
  else if part.all Punycode.isAscii || isValid part then some part
  else none

/-- A label in ASCII. -/
def writeLabel (label : List Char) : List Char :=
  if label.all Punycode.isAscii then label else acePrefix ++ Punycode.encode label

/-- Characters that no host name may have. -/
def isForbidden (c : Char) : Bool :=
  c.toNat ≤ 0x20 || c.toNat = 0x7F || "%#/:<>?@[\\]^|".toList.contains c

/-- A host name in the form in which it is used. -/
def toAscii (name : List Char) : Option (List Char) := do
  let parts := fieldChars '.' (← mapName name)
  if parts.any (·.any isForbidden) then none
  else
    let labels ← parts.mapM readLabel
    if labels.any isMixed && !labels.all directionsAgree then none
    else return List.intercalate ['.'] (labels.map writeLabel)

end Concordance.Url.Domain
