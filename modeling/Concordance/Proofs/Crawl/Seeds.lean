import Concordance.Crawl.Seeds
import Concordance.Proofs.Text.Lines
import Mathlib.Data.List.Basic

/-!
# Numbers of pages in a list

The lines of a list that are neither blank nor comments are numbered by their position, whatever can
be read from them (`contentLines_of_madeOf`, `number_append`). So the numbers ascend, lines that do
not count may come and go, and a line keeps its number when another one is replaced or when lines
are put behind (`numbers_stable`).
-/

namespace Concordance.Seeds

open Text Listing

variable {α β : Type} {text text' line : List Char} {lines more : List (List Char)}
  {id next : DocId} {xs ys : List β} {numbered : List (DocId × β)}

/-! ## Lines that count -/

/-- Blank lines, and comments, which begin with a number sign, do not count. -/
def Ignored (line : List Char) : Prop :=
  Blank line ∨ ∃ gap rest, Blank gap ∧ line = gap ++ '#' :: rest

theorem ignored_iff : Ignored line ↔
    trimChars line = [] ∨ (trimChars line).head? = some '#' := by
  rw [Ignored, trimChars_eq_nil_iff, head?_trimChars_eq_some_iff (by decide)]

instance (line : List Char) : Decidable (Ignored line) :=
  decidable_of_iff _ ignored_iff.symm

/-- Those of some lines that count, without the blanks around them. -/
def counted (lines : List (List Char)) : List (List Char) :=
  (lines.filter fun line => ¬Ignored line).map trimChars

theorem counted_append (lines more : List (List Char)) :
    counted (lines ++ more) = counted lines ++ counted more := by
  rw [counted, List.filter_append, List.map_append]
  rfl

theorem counted_cons_of_ignored (h : Ignored line) : counted (line :: lines) = counted lines := by
  rw [counted, List.filter_cons_of_neg (by simp [h])]
  rfl

theorem counted_cons (h : ¬Ignored line) :
    counted (line :: lines) = trimChars line :: counted lines := by
  rw [counted, List.filter_cons_of_pos (by simp [h])]
  rfl

theorem ignored_nil : Ignored [] :=
  .inl fun _ hc => absurd hc List.not_mem_nil

/-- Whether there is a line feed behind the last line, and whether the line breaks have carriage
returns, makes no difference. -/
theorem contentLines_eq_counted (text : List Char) :
    contentLines text = counted (fieldChars '\n' text) := by
  have hcounts : ∀ line : List Char,
      (!(trimChars line).isEmpty && (trimChars line).head? ≠ some '#') = decide ¬Ignored line :=
    fun line => by
      rw [Bool.eq_iff_iff, decide_eq_true_iff, ignored_iff]
      simp
  have hfields := fieldChars_ne_nil '\n' text
  rw [contentLines, lineChars, List.getLast?_eq_some_getLast hfields, Option.getD_some]
  conv_rhs => rw [← List.dropLast_concat_getLast hfields, counted_append]
  simp only [List.map_append, List.filter_append, List.filter_map, List.map_map,
    Function.comp_def, trimChars_dropReturn, hcounts]
  refine congrArg _ ?_
  -- what stands behind the last line feed is no line if it is empty, but then it does not count
  split
  · next hempty => rw [List.isEmpty_iff.1 hempty, counted_cons_of_ignored ignored_nil]; rfl
  · rfl

/-- The lines that count are those of the text, without the ones that are ignored. -/
theorem contentLines_of_madeOf (h : MadeOf text lines) : contentLines text = counted lines := by
  rw [contentLines_eq_counted]
  by_cases hnil : lines = []
  · rw [← h.joined, hnil]
    exact counted_cons_of_ignored ignored_nil
  · rw [h.fieldChars_eq hnil]

/-! ## Numbering -/

theorem next?_eq_some_iff : next? id = some next ↔
    id.toNat + 1 < UInt32.size ∧ next = id + 1 := by
  rw [next?]
  split
  · next hlt => simp [hlt, eq_comm]
  · next hlt => simp [hlt]

theorem toNat_of_next? (h : next? id = some next) : next.toNat = id.toNat + 1 := by
  obtain ⟨hlt, rfl⟩ := next?_eq_some_iff.1 h
  rw [UInt32.toNat_add, UInt32.toNat_one, Nat.mod_eq_of_lt hlt]

theorem number_cons (id : DocId) (x : β) (xs : List β) : number id (x :: xs) =
    (next? id).bind fun next => (number next xs).map fun rest => (id, x) :: rest := by
  rw [number]
  cases next? id with
  | none => rfl
  | some next => cases hrest : number next xs <;> simp [hrest]

theorem number_cons_eq_some_iff {x : β} : number id (x :: xs) = some numbered ↔
    ∃ next rest, next? id = some next ∧ number next xs = some rest ∧
      (id, x) :: rest = numbered := by
  simp only [number_cons, Option.bind_eq_some_iff, Option.map_eq_some_iff, exists_and_left]

/-- All lines are numbered if the numbers suffice. -/
theorem exists_number_iff :
    (∃ numbered, number id xs = some numbered) ↔ id.toNat + xs.length < UInt32.size := by
  induction xs generalizing id with
  | nil => exact iff_of_true ⟨[], rfl⟩ id.toNat_lt_size
  | cons x xs ih =>
    simp only [number_cons_eq_some_iff, List.length_cons]
    constructor
    · rintro ⟨numbered, next, rest, hnext, hrest, -⟩
      have hlt := ih.1 ⟨rest, hrest⟩
      rw [toNat_of_next? hnext] at hlt
      omega
    · intro hlt
      have hnext : next? id = some (id + 1) := next?_eq_some_iff.2 ⟨by omega, rfl⟩
      have hlt' : (id + 1).toNat + xs.length < UInt32.size := by
        rw [toNat_of_next? hnext]
        omega
      obtain ⟨rest, hrest⟩ := ih.2 hlt'
      exact ⟨_, id + 1, rest, hnext, hrest, rfl⟩

/-- The numbers ascend. -/
theorem pairwise_number (h : number id xs = some numbered) :
    (∀ entry ∈ numbered, id ≤ entry.1) ∧
      numbered.Pairwise fun entry other => entry.1 < other.1 := by
  induction xs generalizing id numbered with
  | nil =>
    cases h
    exact ⟨fun _ hentry => absurd hentry List.not_mem_nil, List.Pairwise.nil⟩
  | cons x xs ih =>
    obtain ⟨next, rest, hnext, hrest, rfl⟩ := number_cons_eq_some_iff.1 h
    obtain ⟨hle, hrest⟩ := ih hrest
    have hlt : id < next := UInt32.lt_iff_toNat_lt.2 (toNat_of_next? hnext ▸ Nat.lt_succ_self _)
    have hbehind : ∀ entry ∈ rest, id < entry.1 := fun entry hentry =>
      UInt32.lt_of_lt_of_le hlt (hle entry hentry)
    exact ⟨List.forall_mem_cons.2 ⟨UInt32.le_refl _, fun entry hentry =>
      UInt32.le_of_lt (hbehind entry hentry)⟩, hrest.cons hbehind⟩

/-- A line has the number of its position. -/
theorem mem_number_iff (h : number id xs = some numbered) {entry : DocId × β} :
    entry ∈ numbered ↔ ∃ n, xs[n]? = some entry.2 ∧ entry.1.toNat = id.toNat + n := by
  induction xs generalizing id numbered with
  | nil =>
    cases h
    simp
  | cons x xs ih =>
    obtain ⟨next, rest, hnext, hrest, rfl⟩ := number_cons_eq_some_iff.1 h
    rw [List.mem_cons, ih hrest, toNat_of_next? hnext]
    constructor
    · rintro (rfl | ⟨n, hline, hid⟩)
      · exact ⟨0, rfl, rfl⟩
      · exact ⟨n + 1, hline, by omega⟩
    · rintro ⟨n, hline, hid⟩
      cases n with
      | zero => exact .inl (Prod.ext (UInt32.toNat_inj.1 hid) (Option.some.inj hline).symm)
      | succ n => exact .inr ⟨n, hline, by omega⟩

/-- Behind some lines, the count goes on from where these lead. -/
theorem number_append : number id (xs ++ ys) =
    (number id xs).bind fun front =>
      (number (id + UInt32.ofNat xs.length) ys).map fun back => front ++ back := by
  induction xs generalizing id with
  | nil => simp [number]
  | cons x xs ih =>
    have hcount : ∀ next, next? id = some next →
        next + UInt32.ofNat xs.length = id + UInt32.ofNat (xs.length + 1) := fun next hnext => by
      rw [(next?_eq_some_iff.1 hnext).2, UInt32.ofNat_add, UInt32.add_assoc,
        UInt32.add_comm 1]
      rfl
    rw [List.cons_append, number_cons, number_cons, Option.bind_assoc]
    refine Option.bind_congr fun next hnext => ?_
    rw [ih, hcount next hnext, Option.map_bind, Option.bind_map]
    simp [Function.comp_def]

/-! ## Pages -/

variable {read : List Char → Option α} {pages pages' : List (DocId × α)}

theorem parse?_of_madeOf (h : MadeOf text lines) : parse? read text =
    (number 1 (counted lines)).map fun numbered => numbered.filterMap (page? read) := by
  rw [parse?, contentLines_of_madeOf h]

/-- The page on a line has the number of the line. -/
theorem fst_eq_of_page? {entry : DocId × List Char} {page : DocId × α}
    (h : page? read entry = some page) : page.1 = entry.1 := by
  obtain ⟨address, -, rfl⟩ := Option.map_eq_some_iff.1 h
  rfl

/-- The numbers of pages ascend. -/
theorem pairwise_parse? (h : parse? read text = some pages) :
    (pages.map Prod.fst).Pairwise (· < ·) := by
  obtain ⟨numbered, hnumbered, rfl⟩ := Option.map_eq_some_iff.1 h
  rw [List.pairwise_map]
  refine (pairwise_number hnumbered).2.filterMap _ fun entry other hlt page hpage page' hpage' => ?_
  rwa [fst_eq_of_page? hpage, fst_eq_of_page? hpage']

/-- A page has the number of the line that its address is read from. -/
theorem mem_of_parse?_iff (h : parse? read text = some pages) {address : α} :
    (id, address) ∈ pages ↔ ∃ n line, (contentLines text)[n]? = some line ∧
      read line = some address ∧ id.toNat = n + 1 := by
  obtain ⟨numbered, hnumbered, rfl⟩ := Option.map_eq_some_iff.1 h
  simp only [List.mem_filterMap, mem_number_iff hnumbered, UInt32.toNat_one, Nat.add_comm 1]
  constructor
  · rintro ⟨⟨id', line⟩, ⟨n, hline, hid⟩, hpage⟩
    obtain ⟨address, hread, heq⟩ := Option.map_eq_some_iff.1 hpage
    cases heq
    exact ⟨n, line, hline, hread, hid⟩
  · rintro ⟨n, line, hline, hread, hid⟩
    exact ⟨(id, line), ⟨n, hline, hid⟩, by rw [page?, hread]; rfl⟩

/-- There are pages if there are fewer lines than numbers. -/
theorem isSome_parse?_iff :
    (parse? read text).isSome ↔ (contentLines text).length + 1 < UInt32.size := by
  rw [parse?, Option.isSome_map, Option.isSome_iff_exists, exists_number_iff, UInt32.toNat_one,
    Nat.add_comm]

/-- Lines that do not count may be put in and taken out. -/
theorem parse?_of_ignored {before after : List (List Char)} (h : MadeOf text (before ++ after))
    (h' : MadeOf text' (before ++ line :: after)) (hignored : Ignored line) :
    parse? read text' = parse? read text := by
  rw [parse?_of_madeOf h, parse?_of_madeOf h', counted_append, counted_append,
    counted_cons_of_ignored hignored]

/-- The page on a line of some number is left out with the pages of that number. -/
theorem filter_pages_eq (front back : List (DocId × List Char)) (line : List Char) :
    ((front ++ (id, line) :: back).filterMap (page? read)).filter (fun page => page.1 ≠ id) =
      ((front ++ back).filterMap (page? read)).filter fun page => page.1 ≠ id := by
  cases hpage : page? read (id, line) with
  | none => simp only [List.filterMap_append, List.filterMap_cons_none hpage]
  | some page =>
    rw [List.filterMap_append, List.filterMap_cons_some hpage, List.filter_append,
      List.filter_cons_of_neg (by simp [fst_eq_of_page? hpage]), ← List.filter_append,
      ← List.filterMap_append]

/-- With one line replaced, all pages but the one of its number are the same. -/
theorem parse?_of_replaced {before after : List (List Char)} {line' : List Char}
    (h : MadeOf text (before ++ line :: after)) (h' : MadeOf text' (before ++ line' :: after))
    (hcounts : ¬Ignored line) (hcounts' : ¬Ignored line')
    (hid : id = UInt32.ofNat ((counted before).length + 1)) :
    (parse? read text').map (fun pages => pages.filter fun page => page.1 ≠ id) =
      (parse? read text).map fun pages => pages.filter fun page => page.1 ≠ id := by
  have hcount : 1 + UInt32.ofNat (counted before).length = id := by
    rw [hid, UInt32.ofNat_add, UInt32.add_comm]
    rfl
  simp only [parse?_of_madeOf h, parse?_of_madeOf h', counted_append, counted_cons hcounts,
    counted_cons hcounts', number_append, number_cons, hcount, Option.map_bind, Option.map_map,
    Function.comp_def, filter_pages_eq]

/-- Lines that are put behind leave the pages in front of them as they are. -/
theorem prefix_of_parse?_append (h : MadeOf text lines ∨ MadeOf text (lines ++ [[]]))
    (h' : MadeOf text' (lines ++ more)) (hpages' : parse? read text' = some pages') :
    ∃ pages, parse? read text = some pages ∧ pages <+: pages' := by
  have hcontent : contentLines text = counted lines := by
    rcases h with h | h
    · exact contentLines_of_madeOf h
    · rw [contentLines_of_madeOf h, counted_append, counted_cons_of_ignored ignored_nil]
      exact List.append_nil _
  rw [parse?_of_madeOf h', counted_append, number_append] at hpages'
  obtain ⟨numbered, hnumbered, rfl⟩ := Option.map_eq_some_iff.1 hpages'
  obtain ⟨front, hfront, hback⟩ := Option.bind_eq_some_iff.1 hnumbered
  obtain ⟨back, -, rfl⟩ := Option.map_eq_some_iff.1 hback
  refine ⟨front.filterMap (page? read), ?_, ?_⟩
  · rw [parse?, hcontent, hfront]
    rfl
  · rw [List.filterMap_append]
    exact List.prefix_append _ _

/-- The numbers of the pages are the positions of their lines among those that count, and ascend.
Blank lines and comments may be put in and taken out anywhere; with one line replaced, nothing but
the page of its number changes, and with lines put behind, nothing in front of them. -/
theorem numbers_stable (read : List Char → Option α) :
    (∀ text, (parse? read text).isSome ↔ (contentLines text).length + 1 < UInt32.size) ∧
    (∀ text pages, parse? read text = some pages →
      (pages.map Prod.fst).Pairwise (· < ·) ∧ ∀ id address, (id, address) ∈ pages ↔
        ∃ n line, (contentLines text)[n]? = some line ∧ read line = some address ∧
          id.toNat = n + 1) ∧
    (∀ text, ∃ lines, MadeOf text lines) ∧
    (∀ text text' before line after, MadeOf text (before ++ after) →
      MadeOf text' (before ++ line :: after) → Ignored line →
        parse? read text' = parse? read text) ∧
    (∀ text text' before line line' after, MadeOf text (before ++ line :: after) →
      MadeOf text' (before ++ line' :: after) → ¬Ignored line → ¬Ignored line' →
        ∀ id, id = UInt32.ofNat ((counted before).length + 1) →
          (parse? read text').map (fun pages => pages.filter fun page => page.1 ≠ id) =
            (parse? read text).map fun pages => pages.filter fun page => page.1 ≠ id) ∧
    ∀ text text' lines more, MadeOf text lines ∨ MadeOf text (lines ++ [[]]) →
      MadeOf text' (lines ++ more) → ∀ pages', parse? read text' = some pages' →
        ∃ pages, parse? read text = some pages ∧ pages <+: pages' :=
  ⟨fun _ => isSome_parse?_iff, fun _ _ h => ⟨pairwise_parse? h, fun _ _ => mem_of_parse?_iff h⟩,
    fun text => ⟨_, madeOf_fieldChars text⟩,
    fun _ _ _ _ _ => parse?_of_ignored, fun _ _ _ _ _ _ h h' hcounts hcounts' _ =>
      parse?_of_replaced h h' hcounts hcounts', fun _ _ _ _ h h' _ => prefix_of_parse?_append h h'⟩

/-- The comment and the blank line have no number, and the line without an address keeps its own. -/
example :
    parse? (fun line => if ' ' ∈ line then none else some (String.ofList line))
        "# pages\na.example\n\nno address\nb.example\n".toList =
      some [(1, "a.example"), (3, "b.example")] := by
  decide +kernel

end Concordance.Seeds
