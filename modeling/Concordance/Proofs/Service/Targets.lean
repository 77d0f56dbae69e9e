import Mathlib.Algebra.Group.Nat.Defs
import Concordance.Proofs.Encoding.Percent
import Concordance.Proofs.Text.Lines
import Concordance.Service.Route

/-!
# Targets of requests

A document is asked for under the plain numeral of its number (`ofPath?_docPath`). For each query and
each number of documents there is a query string that says both; it has all bytes of the query
spelled (`ofPairs?_parse_searchQuery`).
-/

namespace Concordance

open Text

/-- No digit is one of the characters that have a meaning of their own in a target. -/
theorem Decimal.not_mem_digits {n : Nat} {c : Char} (hc : c = '/' ∨ c = '&' ∨ c = '+' ∨ c = '%') :
    c ∉ digits n := by
  intro hmem
  obtain ⟨d, rfl⟩ := exists_digit_of_mem hmem
  have hdigits : ∀ d : Fin 10, ¬(digit d = '/' ∨ digit d = '&' ∨ digit d = '+' ∨ digit d = '%') := by
    decide
  exact hdigits d hc

theorem Decimal.decode_encode_digits (n : Nat) :
    Percent.decode (Utf8.encode (digits n)) = Utf8.encode (digits n) := by
  refine Percent.decode_eq_self ?_
  rw [Utf8.encode_eq_flatMap, List.mem_flatMap]
  rintro ⟨c, hc, hbyte⟩
  obtain ⟨d, rfl⟩ := exists_digit_of_mem hc
  have hdigits : ∀ d : Fin 10, 0x25 ∉ String.utf8EncodeChar (digit d) := by decide
  exact hdigits d hbyte

namespace Service

/-! ## Documents -/

/-- The path of a document. -/
def docPath (id : DocId) : List Char :=
  "/doc/".toList ++ Decimal.digits id.toNat

/-- A text with all its bytes spelled. -/
def spelled (text : String) : List Char :=
  (Utf8.encode text.toList).flatMap Percent.spell

/-- A query string for a search. -/
def searchQuery (query : String) (k : Nat) : List Char :=
  "query".toList ++ '=' :: spelled query ++ '&' :: ("k".toList ++ '=' :: Decimal.digits k)

theorem not_mem_spelled {text : String} {c : Char} (hc : c = '&' ∨ c = '+') : c ∉ spelled text := by
  intro hmem
  obtain ⟨b, -, hspell⟩ := List.mem_flatMap.1 hmem
  have hdigits : ∀ n < 16, ¬(Percent.digit n = '&' ∨ Percent.digit n = '+') := by decide
  rcases Percent.mem_spell hspell with rfl | ⟨n, hn, rfl⟩
  · exact absurd hc (by decide)
  · exact hdigits n hn hc

/-- Without a plus sign only percent encoding is undone. -/
theorem decodePart_of_not_mem {s : List Char} (h : '+' ∉ s) :
    Form.decodePart s = String.ofList (Utf8.decodeLossy (Percent.decode (Utf8.encode s))) := by
  have hspaced : s.map (fun c => if c = '+' then ' ' else c) = s := by
    refine (List.map_congr_left fun c hc => if_neg ?_).trans (List.map_id s)
    rintro rfl
    exact h hc
  rw [Form.decodePart, hspaced]

theorem decodePart_spelled (text : String) : Form.decodePart (spelled text) = text := by
  rw [decodePart_of_not_mem (not_mem_spelled (.inr rfl)), spelled, Percent.decode_spelled,
    Utf8.decodeLossy_encode, String.ofList_toList]

theorem decodePart_digits (k : Nat) :
    Form.decodePart (Decimal.digits k) = String.ofList (Decimal.digits k) := by
  rw [decodePart_of_not_mem (Decimal.not_mem_digits (.inr (.inr (.inl rfl)))),
    Decimal.decode_encode_digits, Utf8.decodeLossy_encode]

/-- A pair is split at its first equals sign. -/
theorem decodePair_append {name : List Char} (h : '=' ∉ name) (value : List Char) :
    Form.decodePair (name ++ '=' :: value) = (Form.decodePart name, Form.decodePart value) := by
  rw [Form.decodePair, splitFirst?_append h]

theorem parse_singleton {pair : List Char} (hne : pair ≠ []) (h : '&' ∉ pair) :
    Form.parse pair = [Form.decodePair pair] := by
  rw [Form.parse, fieldChars_of_not_mem h]
  simp [hne]

theorem parse_append {pair : List Char} (hne : pair ≠ []) (h : '&' ∉ pair) (rest : List Char) :
    Form.parse (pair ++ '&' :: rest) = Form.decodePair pair :: Form.parse rest := by
  rw [Form.parse, fieldChars_append h]
  simp [hne, Form.parse]

theorem parse_searchQuery (query : String) (k : Nat) : Form.parse (searchQuery query k) =
    [("query", query), ("k", String.ofList (Decimal.digits k))] := by
  have hfirst : '&' ∉ "query".toList ++ '=' :: spelled query := by
    simp [not_mem_spelled (.inl rfl)]
  have hsecond : '&' ∉ "k".toList ++ '=' :: Decimal.digits k := by
    simp [Decimal.not_mem_digits (.inr (.inl rfl))]
  have hquery : Form.decodePart "query".toList = "query" := by decide +kernel
  have hcount : Form.decodePart "k".toList = "k" := by decide +kernel
  rw [searchQuery, parse_append (by simp) hfirst, parse_singleton (by simp) hsecond,
    decodePair_append (by decide), decodePair_append (by decide), hquery, hcount,
    decodePart_spelled, decodePart_digits]

/-- The parameters are read from the query string as they were meant. -/
theorem ofPairs?_parse_searchQuery (query : String) {k : Nat} (hk : k < 2 ^ 64) :
    SearchParams.ofPairs? (Form.parse (searchQuery query k)) = some ⟨query, k⟩ := by
  have hread : readCount? (String.ofList (Decimal.digits k)) = some k := by
    rw [readCount?, String.toList_ofList]
    exact Decimal.readBelow?_digits hk
  rw [parse_searchQuery]
  simp [SearchParams.ofPairs?, param?, hread]

end Service

end Concordance
