import Concordance.Text.Blank
import Concordance.Text.Fold

/-!
# Snippets

A snippet shows the place of a document where a term of the query stands. It is a window of
the text: a hundred characters before the first occurrence of the first term that occurs, and
two hundred from there on, or the first two hundred characters if no term occurs. In the
window every occurrence of a term is put between tags, one term after another.
-/

namespace Concordance.Snippet

open Text

/-! ## Highlighting -/

/-- The tag in front of an occurrence. -/
def openTag : List Char := "<em>".toList

/-- The tag behind an occurrence. -/
def closeTag : List Char := "</em>".toList

/-- Whether `s` begins with `term` up to case folding. -/
def beginsWith : (term s : List Char) → Bool
  | [], _ => true
  | _ :: _, [] => false
  | t :: term, c :: s => foldChar t == foldChar c && beginsWith term s

/-- Put the occurrences of a term between tags, from the left; occurrences do not overlap. -/
def mark (term s : List Char) : List Char :=
  match s with
  | [] => []
  | c :: rest =>
    if term ≠ [] ∧ beginsWith term (c :: rest) then
      openTag ++ (c :: rest).take term.length ++ closeTag ++
        mark term ((c :: rest).drop term.length)
    else c :: mark term rest
termination_by s.length
decreasing_by
  · rename_i h
    have : 0 < term.length := List.length_pos_iff.mpr h.1
    simp only [List.length_drop, List.length_cons]
    omega
  · simp

/-- Put the occurrences of one term after another between tags; a later term also matches
inside what earlier ones marked. Blank terms are passed over. The pattern of a term is taken to be
made; a term that is too long for a pattern would be passed over as well. -/
def highlightChars (s : List Char) (terms : List (List Char)) : List Char :=
  terms.foldl (fun s term => if (trimChars term).isEmpty then s else mark term s) s

/-- Put the occurrences of one term after another between tags. -/
def highlight (s : String) (terms : List String) : String :=
  String.ofList (highlightChars s.toList (terms.map String.toList))

/-! ## The window -/

/-- The characters shown before an occurrence. -/
def before : Nat := 100

/-- The characters shown from the start of an occurrence, or of the text, on. -/
def after : Nat := 200

/-- The offset of the first term that is not blank and occurs. -/
def focus? (s : List Char) (terms : List (List Char)) : Option Nat :=
  (terms.filter fun term => !(trimChars term).isEmpty).findSome? fun term => findIgnoringCase term s

/-- The characters from `start` up to `stop`; there are none if these are no bounds of the text. -/
def slice? (s : List Char) (start stop : Nat) : Option (List Char) :=
  if start ≤ stop ∧ stop ≤ s.length then some ((s.take stop).drop start) else none

/-- The part of the text that a snippet shows. -/
def window? (s : List Char) (terms : List (List Char)) : Option (List Char) :=
  match focus? s terms with
  | some offset =>
    let stop := min (offset + after) s.length
    slice? s (min (offset - before) stop) stop
  | none => some (s.take after)

/-- The snippet of a text, with the terms highlighted; an empty text has none. -/
def ofText? (text : String) (terms : List String) : Option String :=
  if text.isEmpty then none
  else
    (window? text.toList (terms.map String.toList)).map fun window =>
      highlight (String.ofList window) terms

end Concordance.Snippet
