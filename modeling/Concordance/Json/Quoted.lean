import Concordance.Number.Hex

/-!
# Quoted text

A text in JSON stands between quotation marks. `encode` escapes the quotation mark, the
backslash and the control characters, and leaves all else as it is. `decode` reads every
escape of the format; an escaped character beyond the basic plane is spelled as a pair of
surrogates, and a surrogate alone is refused. `skip` passes over a text without asking what
its escapes mean.
-/

namespace Concordance.Json

/-- Takes a value from the front of a text and returns what is left. -/
abbrev Reader (α : Type) := List Char → Option (α × List Char)

namespace Quoted

/-! ## Writing -/

/-- The letter behind the backslash that stands for a control character. -/
def shortEscape? (c : Char) : Option Char :=
  if c = '\x08' then some 'b'
  else if c = '\t' then some 't'
  else if c = '\n' then some 'n'
  else if c = '\x0c' then some 'f'
  else if c = '\r' then some 'r'
  else none

/-- A character as it stands between quotation marks. -/
def encodeChar (c : Char) : List Char :=
  if c = '"' ∨ c = '\\' then ['\\', c]
  else
    match shortEscape? c with
    | some letter => ['\\', letter]
    | none =>
      if c.toNat < 0x20 then
        ['\\', 'u', '0', '0', Hex.digit (c.toNat / 16), Hex.digit (c.toNat % 16)]
      else [c]

/-- A text between quotation marks. -/
def encode (s : List Char) : List Char :=
  '"' :: (s.flatMap encodeChar ++ ['"'])

/-! ## Reading -/

/-- The character that a letter behind a backslash stands for. -/
def unescape? (letter : Char) : Option Char :=
  if letter = '"' ∨ letter = '\\' ∨ letter = '/' then some letter
  else if letter = 'b' then some '\x08'
  else if letter = 't' then some '\t'
  else if letter = 'n' then some '\n'
  else if letter = 'f' then some '\x0c'
  else if letter = 'r' then some '\r'
  else none

/-- The number that four hexadecimal digits spell. -/
def unit? (a b c d : Char) : Option Nat := do
  let a ← Hex.digitValue? a
  let b ← Hex.digitValue? b
  let c ← Hex.digitValue? c
  let d ← Hex.digitValue? d
  return ((a * 16 + b) * 16 + c) * 16 + d

/-- Whether a number is the first half of a surrogate pair. -/
def isHigh (n : Nat) : Bool :=
  0xD800 ≤ n && n ≤ 0xDBFF

/-- Whether a number is the second half of a surrogate pair. -/
def isLow (n : Nat) : Bool :=
  0xDC00 ≤ n && n ≤ 0xDFFF

/-- The character that a surrogate pair spells. -/
def pairChar (high low : Nat) : Char :=
  Char.ofNat (0x10000 + (high - 0xD800) * 0x400 + (low - 0xDC00))

/-- The rest of a text up to its closing quotation mark. -/
def decodeRest : Reader (List Char)
  | [] => none
  | '"' :: rest => some ([], rest)
  | '\\' :: 'u' :: a :: b :: c :: d :: rest => do
    let high ← unit? a b c d
    if isLow high then none
    else if isHigh high then
      match rest with
      | '\\' :: 'u' :: a :: b :: c :: d :: rest =>
        let low ← unit? a b c d
        if isLow low then
          let (s, rest) ← decodeRest rest
          return (pairChar high low :: s, rest)
        else none
      | _ => none
    else
      let (s, rest) ← decodeRest rest
      return (Char.ofNat high :: s, rest)
  | '\\' :: letter :: rest => do
    let c ← unescape? letter
    let (s, rest) ← decodeRest rest
    return (c :: s, rest)
  | c :: rest =>
    if c = '\\' ∨ c.toNat < 0x20 then none
    else do
      let (s, rest) ← decodeRest rest
      return (c :: s, rest)

/-- A text between quotation marks. -/
def decode : Reader (List Char)
  | '"' :: rest => decodeRest rest
  | _ => none

/-- What follows the closing quotation mark of a text. -/
def skipRest : List Char → Option (List Char)
  | [] => none
  | '"' :: rest => some rest
  | '\\' :: 'u' :: a :: b :: c :: d :: rest =>
    if (unit? a b c d).isSome then skipRest rest else none
  | '\\' :: letter :: rest => if (unescape? letter).isSome then skipRest rest else none
  | c :: rest => if c = '\\' ∨ c.toNat < 0x20 then none else skipRest rest

end Quoted

end Concordance.Json
