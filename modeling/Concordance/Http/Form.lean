import Concordance.Encoding.Percent
import Concordance.Text.Blank

/-!
# Query strings

A query string holds pairs of a name and a value, joined by an equals sign and separated by
ampersands; empty pairs are passed over, and a pair without an equals sign has an empty value.
In names and values a plus sign stands for a space, and percent encoding is undone; bytes that
are not UTF-8 are replaced.
-/

namespace Concordance.Form

/-- A name or a value as it was meant. -/
def decodePart (s : List Char) : String :=
  let spaced := s.map fun c => if c = '+' then ' ' else c
  String.ofList (Utf8.decodeLossy (Percent.decode (Utf8.encode spaced)))

/-- The name and the value of a pair. -/
def decodePair (s : List Char) : String × String :=
  match Text.splitFirst? '=' s with
  | some (name, value) => (decodePart name, decodePart value)
  | none => (decodePart s, "")

/-- The pairs of a query string, in order. -/
def parse (query : List Char) : List (String × String) :=
  ((Text.fieldChars '&' query).filter (!·.isEmpty)).map decodePair

end Concordance.Form
