/-!
# Blanks, words and lines

Text is handled as a list of characters here, and the functions on `String` are thin
coverings of the ones on lists. `isBlank` is the Unicode property `White_Space`; it decides
what `trim` removes and where `words` are cut.

`segments` cuts a text by the role of each character : a gap separates and is dropped, a
mark stands alone, letters run together. Both the words of a text and the lexemes of a query
are segments. It is a right fold, so cutting is local : what stands behind a gap or a mark
does not change the segments in front of it (`segments_append_gap`, `segments_append_mark`).
-/

namespace Concordance.Text

/-- The characters with the property `White_Space`. -/
def isBlank (c : Char) : Bool :=
  let n := c.toNat
  (0x9 ≤ n && n ≤ 0xD) || n == 0x20 || n == 0x85 || n == 0xA0 || n == 0x1680 ||
    (0x2000 ≤ n && n ≤ 0x200A) || n == 0x2028 || n == 0x2029 || n == 0x202F || n == 0x205F ||
    n == 0x3000

/-! ## Trimming -/

/-- `s` without the leading and trailing characters that satisfy `p`. -/
def trimBy (p : Char → Bool) (s : List Char) : List Char :=
  ((s.dropWhile p).reverse.dropWhile p).reverse

/-- `s` without leading and trailing blanks. -/
def trimChars (s : List Char) : List Char :=
  trimBy isBlank s

/-- `s` without leading and trailing blanks. -/
def trim (s : String) : String :=
  String.ofList (trimChars s.toList)

/-! ## Segments -/

/-- What a character does to the segment it stands in. -/
inductive Role
  /-- Separates segments and belongs to none. -/
  | gap
  /-- Is a segment by itself. -/
  | mark
  /-- Continues the segment around it. -/
  | letter
  deriving Repr, DecidableEq

/-- A run of letters as a segment, unless it is empty. -/
def closeRun (run : List Char) (segments : List (List Char)) : List (List Char) :=
  if run.isEmpty then segments else run :: segments

/-- One step of the cut from the right : the open run of letters, and the finished segments. -/
def segmentStep (role : Char → Role) (c : Char) (acc : List Char × List (List Char)) :
    List Char × List (List Char) :=
  match role c with
  | .gap => ([], closeRun acc.1 acc.2)
  | .mark => ([], [c] :: closeRun acc.1 acc.2)
  | .letter => (c :: acc.1, acc.2)

/-- The marks of `s` and its maximal runs of letters, in order. -/
def segments (role : Char → Role) (s : List Char) : List (List Char) :=
  let acc := s.foldr (segmentStep role) ([], [])
  closeRun acc.1 acc.2

/-- A run of letters is closed by a text that begins with no letter. -/
theorem foldr_segmentStep_append (role : Char → Role) {b : List Char}
    (hb : (b.foldr (segmentStep role) ([], [])).1 = []) (a : List Char) :
    (a ++ b).foldr (segmentStep role) ([], []) =
      ((a.foldr (segmentStep role) ([], [])).1,
        (a.foldr (segmentStep role) ([], [])).2 ++ (b.foldr (segmentStep role) ([], [])).2) := by
  induction a with
  | nil => exact Prod.ext hb rfl
  | cons x a ih =>
    simp only [List.cons_append, List.foldr_cons, ih]
    cases hx : role x <;> simp only [segmentStep, hx, closeRun]
    · split <;> simp
    · split <;> simp

/-- A gap cuts the text into two parts with segments of their own. -/
theorem segments_append_gap (role : Char → Role) {c : Char} (hc : role c = .gap)
    (a b : List Char) :
    segments role (a ++ c :: b) = segments role a ++ segments role b := by
  rw [segments, foldr_segmentStep_append role (by simp [segmentStep, hc])]
  simp only [segments, closeRun, List.foldr_cons, segmentStep, hc]
  split <;> simp

/-- A mark is a segment and cuts the text into two parts with segments of their own. -/
theorem segments_append_mark (role : Char → Role) {c : Char} (hc : role c = .mark)
    (a b : List Char) :
    segments role (a ++ c :: b) = segments role a ++ [c] :: segments role b := by
  rw [segments, foldr_segmentStep_append role (by simp [segmentStep, hc])]
  simp only [segments, closeRun, List.foldr_cons, segmentStep, hc]
  split <;> simp

/-- Maximal runs of characters that are not blank. -/
def wordChars (s : List Char) : List (List Char) :=
  segments (fun c => if isBlank c then .gap else .letter) s

/-- Maximal runs of characters that are not blank. -/
def words (s : String) : List String :=
  (wordChars s.toList).map String.ofList

/-! ## Lines -/

/-- The fields of `s` between the separators `sep`; there is one more of them than there are
separators. -/
def fieldChars (sep : Char) (s : List Char) : List (List Char) :=
  s.foldr (fun c acc => if c = sep then [] :: acc else acc.modifyHead (c :: ·)) [[]]

/-- A carriage return at the end of a line belongs to its line break. -/
def dropReturn (line : List Char) : List Char :=
  if line.getLast? = some '\r' then line.dropLast else line

/-- The lines of `s`. Each line feed ends one, together with a carriage return in front of
it, and text behind the last line feed is a line of its own. -/
def lineChars (s : List Char) : List (List Char) :=
  let fields := fieldChars '\n' s
  let tail := fields.getLast?.getD []
  fields.dropLast.map dropReturn ++ (if tail.isEmpty then [] else [tail])

/-- The lines of `s`. -/
def lines (s : String) : List String :=
  (lineChars s.toList).map String.ofList

/-- The part of `s` before the first `sep` and the part behind it, if there is one. -/
def splitFirst? (sep : Char) : List Char → Option (List Char × List Char)
  | [] => none
  | c :: rest =>
    if c = sep then some ([], rest)
    else (splitFirst? sep rest).map fun p => (c :: p.1, p.2)

end Concordance.Text
