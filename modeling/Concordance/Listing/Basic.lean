import Concordance.Text.Blank

/-!
# Line listings

A listing holds one entry per line. Blank lines are passed over, but counted : a fault names
the first line that cannot be read, counted from one.
-/

namespace Concordance.Listing

/-- Why a line of a listing cannot be read. -/
inductive Reason
  /-- An address line has no space. -/
  | expectedUrl
  /-- An address line begins with something that is not a document number. -/
  | invalidId (id : String)
  /-- A line of lemmas has no colon. -/
  | expectedLemma
  /-- A line of lemmas names no tokens. -/
  | noTokens
  deriving Repr, DecidableEq

/-- The reason in words. -/
def Reason.message : Reason → String
  | expectedUrl => "expected `<index> <url>`"
  | invalidId id => "invalid document id `" ++ id ++ "`"
  | expectedLemma => "expected `lemma: tokens`"
  | noTokens => "lemma without tokens"

/-- The first line that cannot be read. -/
structure Fault where
  /-- The number of the line, counted from one. -/
  line : Nat
  /-- What is wrong with it. -/
  reason : Reason
  deriving Repr, DecidableEq

/-- Read entries line by line : `read` gives the entry of a line that is not blank, and `add`
takes it into the result. -/
def readLines {σ ε : Type} (read : List Char → Except Reason ε) (add : σ → ε → σ) :
    Nat → σ → List (List Char) → Except Fault σ
  | _, acc, [] => .ok acc
  | n, acc, line :: rest =>
    if (Text.trimChars line).isEmpty then readLines read add (n + 1) acc rest
    else
      match read line with
      | .ok entry => readLines read add (n + 1) (add acc entry) rest
      | .error reason => .error ⟨n, reason⟩

/-- Lines with `separator` between them. -/
def joinWith (separator : List Char) (parts : List (List Char)) : List Char :=
  (parts.intersperse separator).flatten

end Concordance.Listing
