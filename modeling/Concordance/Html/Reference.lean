import Concordance.Html.ReferenceData
import Concordance.Number.Hex
import Concordance.Text.Blank
import Std.Data.HashMap

/-!
# Character references

A character reference stands for one or two characters : a number behind `&#`, or a name
behind `&`. The longest name that matches counts. A name without its semicolon is read only
if it is one of the old names, and inside an attribute value not in front of a letter, a digit
or an equals sign.
-/

namespace Concordance.Html

open Text

/-! ## Names -/

/-- What a name stands for. -/
structure NamedReference where
  /-- The characters. -/
  chars : List Char
  /-- Whether the semicolon may be left out. -/
  bare : Bool

/-- The name and the meaning that an entry of the table gives. -/
def readReference? (entry : List Char) : Option (String × NamedReference) :=
  let name := entry.takeWhile fun c => c ≠ '=' && c ≠ '!'
  match entry.drop name.length with
  | [] => none
  | mark :: codes =>
    some (String.ofList name,
      ⟨(fieldChars '+' codes).map fun code => Char.ofNat (Hex.value code), mark == '!'⟩)

/-- The named references. -/
def namedReferences : Std.HashMap String NamedReference :=
  Std.HashMap.ofList ((referenceText.flatMap fun line => wordChars line.toList).filterMap
    readReference?)

/-- Whether `c` is an ASCII letter or digit. -/
def isNameChar (c : Char) : Bool :=
  c.isAlphanum

/-- The longest front part of `name`, of at most `n` characters, that is read without a
semicolon. -/
def bareReference? (name : List Char) : (n : Nat) → Option (Nat × List Char)
  | 0 => none
  | n + 1 =>
    match namedReferences[String.ofList (name.take (n + 1))]? with
    | some r => if r.bare then some (n + 1, r.chars) else bareReference? name n
    | none => bareReference? name n

/-- A named reference at the front of `s`, which follows an ampersand : its characters and
what is left. -/
def namedReference? (inAttribute : Bool) (s : List Char) : Option (List Char × List Char) :=
  let name := (s.take 40).takeWhile isNameChar
  let rest := s.drop name.length
  let whole :=
    match rest with
    | ';' :: rest => (namedReferences[String.ofList name]?).map fun r => (r.chars, rest)
    | _ => none
  match whole with
  | some r => some r
  | none =>
    match bareReference? name name.length with
    | none => none
    | some (n, chars) =>
      let rest := s.drop n
      let continues :=
        match rest with
        | c :: _ => c == '=' || isNameChar c
        | [] => false
      if inAttribute && continues then none else some (chars, rest)

/-! ## Numbers -/

/-- The characters meant by the numbers of the second control block. -/
def controlReplacements : List (Nat × Nat) := [
  (0x80, 0x20AC), (0x82, 0x201A), (0x83, 0x192), (0x84, 0x201E), (0x85, 0x2026), (0x86, 0x2020),
  (0x87, 0x2021), (0x88, 0x2C6), (0x89, 0x2030), (0x8A, 0x160), (0x8B, 0x2039), (0x8C, 0x152),
  (0x8E, 0x17D), (0x91, 0x2018), (0x92, 0x2019), (0x93, 0x201C), (0x94, 0x201D), (0x95, 0x2022),
  (0x96, 0x2013), (0x97, 0x2014), (0x98, 0x2DC), (0x99, 0x2122), (0x9A, 0x161), (0x9B, 0x203A),
  (0x9C, 0x153), (0x9E, 0x17E), (0x9F, 0x178)]

/-- The character that a number stands for. Zero, surrogates and numbers beyond the last code
point stand for the replacement character. -/
def numberedChar (n : Nat) : Char :=
  if n = 0 || 0x10FFFF < n || (0xD800 ≤ n && n ≤ 0xDFFF) then '\uFFFD'
  else
    match controlReplacements.find? fun r => r.1 == n with
    | some r => Char.ofNat r.2
    | none => Char.ofNat n

/-- The digits of a reference in base ten or sixteen, and what they stand for. -/
def digitReference? (base : Nat) (s : List Char) : Option (List Char × List Char) :=
  let isDigit := if base = 10 then Char.isDigit else Hex.isDigit
  let digits := s.takeWhile isDigit
  if digits.isEmpty then none
  else
    let n := (digits.filterMap Hex.digitValue?).foldl (fun acc d => base * acc + d) 0
    let rest :=
      match s.drop digits.length with
      | ';' :: rest => rest
      | rest => rest
    some ([numberedChar n], rest)

/-- A numbered reference at the front of `s`, which follows `&#`. -/
def numberedReference? (s : List Char) : Option (List Char × List Char) :=
  match s with
  | 'x' :: rest => digitReference? 16 rest
  | 'X' :: rest => digitReference? 16 rest
  | s => digitReference? 10 s

/-- A reference at the front of `s`, which follows an ampersand : its characters and what is
left. -/
def reference? (inAttribute : Bool) (s : List Char) : Option (List Char × List Char) :=
  match s with
  | '#' :: rest => numberedReference? rest
  | c :: _ => if isNameChar c then namedReference? inAttribute s else none
  | [] => none

/-- Replace the references in an attribute value; `fuel` bounds the number of its
characters. -/
def decodeValue : (fuel : Nat) → List Char → List Char
  | 0, s => s
  | _ + 1, [] => []
  | fuel + 1, c :: rest =>
    if c = '&' then
      match reference? true rest with
      | some (chars, rest) => chars ++ decodeValue fuel rest
      | none => '&' :: decodeValue fuel rest
    else c :: decodeValue fuel rest

end Concordance.Html
