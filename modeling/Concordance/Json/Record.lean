import Concordance.Json.Quoted
import Concordance.Listing.Basic
import Concordance.Number.Decimal

/-!
# Records in JSON

A record with known members is written as an object, one member on a line, and read either
from an object or from an array that gives the members in their order. Of an object unknown
members are passed over whatever they hold, and a member given twice is refused. Members
that are missing are left to the caller, who knows which of them have a default.
-/

namespace Concordance.Json

/-! ## Writing -/

/-- The blanks in front of a line. -/
def indentation (depth : Nat) : List Char :=
  List.replicate (2 * depth) ' '

/-- An object at some depth of indentation, one member on a line. -/
def writeObject (depth : Nat) (members : List (String × List Char)) : List Char :=
  '\x7b' :: '\n' ::
    (Listing.joinWith [',', '\n'] (members.map fun member =>
        indentation (depth + 1) ++ Quoted.encode member.1.toList ++ ':' :: ' ' :: member.2) ++
      '\n' :: indentation depth ++ ['\x7d'])

/-- A text that may be missing. -/
def writeOptional : Option String → List Char
  | none => "null".toList
  | some s => Quoted.encode s.toList

/-! ## Reading single values -/

/-- Whether a character may stand between the parts of a value. -/
def isGap (c : Char) : Bool :=
  c == ' ' || c == '\t' || c == '\n' || c == '\r'

/-- What follows the blanks at the front. -/
def skipGaps (s : List Char) : List Char :=
  s.dropWhile isGap

/-- What follows a character behind blanks. -/
def skipChar (c : Char) (s : List Char) : Option (List Char) :=
  match skipGaps s with
  | d :: rest => if d = c then some rest else none
  | [] => none

/-- A text behind blanks. -/
def readText : Reader String := fun s => do
  let (text, rest) ← Quoted.decode (skipGaps s)
  return (String.ofList text, rest)

/-- A text behind blanks, or the word for a missing one. -/
def readOptional : Reader (Option String) := fun s =>
  match skipGaps s with
  | 'n' :: 'u' :: 'l' :: 'l' :: rest => some (none, rest)
  | s => do
    let (text, rest) ← readText s
    return (some text, rest)

/-- Whether a character belongs to a number. -/
def isNumeric (c : Char) : Bool :=
  (Decimal.digitValue? c).isSome || c == '.' || c == 'e' || c == 'E'

/-- A natural number of 32 bits behind blanks, without a leading zero, a fraction or an
exponent. -/
def readUInt32 : Reader UInt32 := fun s =>
  let s := skipGaps s
  let numeral := s.takeWhile isNumeric
  if numeral.head? = some '0' ∧ numeral ≠ ['0'] then none
  else do
    let n ← (Decimal.readDigits? numeral).filter (· < UInt32.size)
    return (UInt32.ofNat n, s.dropWhile isNumeric)

/-! ## Passing over values -/

/-- What follows a run of at least one digit. -/
def skipDigits (s : List Char) : Option (List Char) :=
  let isDigit := fun c => (Decimal.digitValue? c).isSome
  if (s.takeWhile isDigit).isEmpty then none else some (s.dropWhile isDigit)

/-- What follows the digits of a whole number, which has no leading zero. -/
def skipWhole : List Char → Option (List Char)
  | '0' :: c :: rest => if (Decimal.digitValue? c).isSome then none else some (c :: rest)
  | s => skipDigits s

/-- What follows a fraction, if there is one. -/
def skipFraction : List Char → Option (List Char)
  | '.' :: rest => skipDigits rest
  | s => some s

/-- What follows an exponent, if there is one. -/
def skipExponent : List Char → Option (List Char)
  | c :: rest =>
    if c = 'e' ∨ c = 'E' then
      match rest with
      | '+' :: rest => skipDigits rest
      | '-' :: rest => skipDigits rest
      | rest => skipDigits rest
    else some (c :: rest)
  | [] => some []

/-- What follows a number. -/
def skipNumber (s : List Char) : Option (List Char) := do
  let s := match s with
    | '-' :: rest => rest
    | s => s
  skipExponent (← skipFraction (← skipWhole s))

/-- What follows a value without parts. -/
def skipScalar : List Char → Option (List Char)
  | 'n' :: 'u' :: 'l' :: 'l' :: rest => some rest
  | 't' :: 'r' :: 'u' :: 'e' :: rest => some rest
  | 'f' :: 'a' :: 'l' :: 's' :: 'e' :: rest => some rest
  | '"' :: rest => Quoted.skipRest rest
  | s => skipNumber s

/-- A bracket that is open. -/
inductive Bracket
  /-- Of an array. -/
  | array
  /-- Of an object. -/
  | object
  deriving Repr, DecidableEq

/-- The character that closes a bracket. -/
def Bracket.closing : Bracket → Char
  | array => ']'
  | object => '\x7d'

/-- What may come next inside the open brackets. -/
inductive Awaited
  /-- A value. -/
  | value
  /-- The name of a member. -/
  | name
  /-- The first part inside a bracket, or its end. -/
  | first
  /-- A comma or the end of a bracket. -/
  | next
  deriving Repr, DecidableEq

/-- What may stand behind a bracket or a comma. -/
def Bracket.part : Bracket → Awaited
  | array => .value
  | object => .name

/-- What follows a value that is nested in open brackets. Each step either passes over a
character or turns to a part of the innermost bracket, so twice as many steps as characters
are enough. -/
def skipNested : (steps : Nat) → List Bracket → Awaited → List Char → Option (List Char)
  | 0, _, _, _ => none
  | _ + 1, [], .next, s => some s
  | _ + 1, [], .first, _ => none
  | _ + 1, [], .name, _ => none
  | steps + 1, stack, .value, s =>
    match skipGaps s with
    | '[' :: rest => skipNested steps (.array :: stack) .first rest
    | '\x7b' :: rest => skipNested steps (.object :: stack) .first rest
    | s => do skipNested steps stack .next (← skipScalar s)
  | steps + 1, stack, .name, s => do
    let rest ← skipChar '"' s
    let rest ← skipChar ':' (← Quoted.skipRest rest)
    skipNested steps stack .value rest
  | steps + 1, bracket :: stack, .first, s =>
    match skipChar bracket.closing s with
    | some rest => skipNested steps stack .next rest
    | none => skipNested steps (bracket :: stack) bracket.part s
  | steps + 1, bracket :: stack, .next, s =>
    match skipChar bracket.closing s with
    | some rest => skipNested steps stack .next rest
    | none => do skipNested steps (bracket :: stack) bracket.part (← skipChar ',' s)

/-- What follows a value of any kind. -/
def skipValue (s : List Char) : Option (List Char) :=
  skipNested (2 * s.length + 2) [] .value s

/-! ## Reading records -/

/-- Takes a member into what is known of a record; refuses a member that is known. -/
abbrev Member (σ : Type) := σ → Reader σ

/-- A member of which `old` is known already : read by `read`, and put in its place by
`keep`. -/
def member {σ α : Type} (old : σ → Option α) (read : Reader α) (keep : σ → α → σ) : Member σ :=
  fun acc s =>
    if (old acc).isSome then none
    else do
      let (value, rest) ← read s
      return (keep acc value, rest)

variable {σ : Type}

/-- One member of an object with its name. -/
def readNamed (members : List (String × Member σ)) (acc : σ) : Reader σ := fun s => do
  let (name, rest) ← readText s
  let rest ← skipChar ':' rest
  match members.lookup name with
  | some read => read acc rest
  | none => return (acc, ← skipValue rest)

/-- The members of an object up to its end. Each takes at least a character. -/
def readMembers (members : List (String × Member σ)) : (steps : Nat) → σ → Reader σ
  | 0, _, _ => none
  | steps + 1, acc, s => do
    let (acc, rest) ← readNamed members acc s
    match skipChar ',' rest with
    | some rest => readMembers members steps acc rest
    | none => return (acc, ← skipChar '\x7d' rest)

/-- The remaining members of an array, which may end before all are given. -/
def readItems : List (Member σ) → σ → Reader σ
  | [], acc, s => do return (acc, ← skipChar ']' s)
  | read :: members, acc, s =>
    match skipChar ']' s with
    | some rest => some (acc, rest)
    | none => do
      let (acc, rest) ← read acc (← skipChar ',' s)
      readItems members acc rest

/-- A record behind blanks : an object, or an array of its members in order. -/
def readRecord (members : List (String × Member σ)) (init : σ) : Reader σ := fun s =>
  match skipGaps s with
  | '\x7b' :: rest =>
    match skipChar '\x7d' rest with
    | some rest => some (init, rest)
    | none => readMembers members rest.length init rest
  | '[' :: rest =>
    match skipChar ']' rest, members.map Prod.snd with
    | some rest, _ => some (init, rest)
    | none, [] => none
    | none, read :: members => do
      let (acc, rest) ← read init rest
      readItems members acc rest
  | _ => none

end Concordance.Json
