import Concordance.FileTree.Path
import Concordance.Proofs.Except
import Concordance.Proofs.FileTree.Changes
import Concordance.Proofs.Text.Utf8

/-!
# What reading a tree gives

The readers of a tree in terms of what stands at each place : a text is read exactly from a file
whose content is that text in UTF-8 (`readText_eq_ok_iff`), and a directory has the names of the
entries directly below it, each once (`mem_names_iff`, `nodup_names`).
-/

namespace Concordance.FileTree

open Text

variable {tree tree' : FileTree} {name text : String} {around place : Place}

/-! ## Files -/

theorem read_eq_ok_iff {content : ByteArray} :
    tree.read place = .ok content ↔ tree.get? place = some (.file content) := by
  rw [read, lookup]
  cases tree.get? place with
  | none => simp [bind, Except.bind]
  | some entry =>
    cases entry with
    | directory => simp [bind, Except.bind, throw, throwThe, MonadExceptOf.throw]
    | file bytes => simp [bind, Except.bind, pure, Except.pure]

/-- A text is read from a file that holds it in UTF-8. -/
theorem readText_eq_ok_iff :
    tree.readText place = .ok text ↔ tree.get? place = some (.file text.toUTF8) := by
  rw [readText, bind_eq_ok_iff]
  constructor
  · rintro ⟨content, hread, h⟩
    split at h
    · next found hfound =>
      cases h
      rw [← fromUTF8?_eq_some_iff.1 hfound]
      exact read_eq_ok_iff.1 hread
    · cases h
  · intro h
    refine ⟨text.toUTF8, read_eq_ok_iff.2 h, ?_⟩
    rw [fromUTF8?_eq_some_iff.2 rfl]
    rfl

theorem readText_of_get?_eq_none (hnone : tree.get? (name :: around) = none)
    (haround : tree.get? around = some .directory) :
    tree.readText (name :: around) = .error .notFound := by
  rw [readText, read, lookup_of_get?_eq_none hnone haround]
  rfl

/-- What is there is not missing. -/
theorem readText_ne_notFound (hhas : tree.has place = true) :
    tree.readText place ≠ .error .notFound := by
  obtain ⟨entry, hentry⟩ := Option.isSome_iff_exists.1 hhas
  cases entry with
  | directory => simp [readText, read, lookup_of_get? hentry, bind, Except.bind, throw, throwThe,
      MonadExceptOf.throw]
  | file content =>
    rw [readText, read_eq_ok_iff.2 hentry]
    cases htext : String.fromUTF8? content with
    | none => simp [htext, bind, Except.bind, throw, throwThe, MonadExceptOf.throw]
    | some text => simp [htext, bind, Except.bind, pure, Except.pure]

/-- Inside a directory, what is read depends on the entry alone. -/
theorem readText_congr (haround : tree.get? around = some .directory)
    (haround' : tree'.get? around = some .directory)
    (hget : tree'.get? (name :: around) = tree.get? (name :: around)) :
    tree'.readText (name :: around) = tree.readText (name :: around) := by
  cases hentry : tree.get? (name :: around) with
  | none =>
    rw [readText_of_get?_eq_none hentry haround,
      readText_of_get?_eq_none (hget.trans hentry) haround']
  | some entry =>
    rw [readText, readText, read, read, lookup_of_get? hentry, lookup_of_get? (hget.trans hentry)]

theorem obstacle_congr (h : ∀ place, place <:+ around → tree'.get? place = tree.get? place) :
    tree'.obstacle around = tree.obstacle around := by
  induction around with
  | nil => rfl
  | cons name around ih =>
    rw [obstacle, obstacle, h _ (List.suffix_refl _),
      ih fun place hplace => h place (hplace.trans (List.suffix_cons _ _))]

/-- What is found, or why nothing is, depends on the entry and on those that lead to it. -/
theorem lookup_congr (h : ∀ other, other <:+ place → tree'.get? other = tree.get? other) :
    tree'.lookup place = tree.lookup place := by
  rw [lookup, lookup, h _ (List.suffix_refl _),
    obstacle_congr fun other hother => h other (hother.trans (List.tail_suffix _))]

theorem readText_congr_of_suffix
    (h : ∀ other, other <:+ place → tree'.get? other = tree.get? other) :
    tree'.readText place = tree.readText place := by
  rw [readText, readText, read, read, lookup_congr h]

theorem has_congr (h : tree'.get? place = tree.get? place) : tree'.has place = tree.has place := by
  rw [has, has, h]

theorem hasFile_congr (h : tree'.get? place = tree.get? place) :
    tree'.hasFile place = tree.hasFile place := by
  rw [hasFile, hasFile, h]

/-! ## Directories -/

theorem names_eq_of_directory (h : tree.get? place = some .directory) :
    tree.names place = .ok (tree.entries.keys.filterMap fun
      | name :: around => if around = place then some name else none
      | [] => none) := by
  rw [names, lookup_of_get? h]
  rfl

theorem names_of_get?_eq_none (hnone : tree.get? (name :: around) = none)
    (haround : tree.get? around = some .directory) :
    tree.names (name :: around) = .error .notFound := by
  rw [names, lookup_of_get?_eq_none hnone haround]
  rfl

/-- The names in a directory are those of the entries directly below it. -/
theorem mem_names_iff {names : List String} (h : tree.get? place = some .directory)
    (hnames : tree.names place = .ok names) : name ∈ names ↔ (tree.get? (name :: place)).isSome := by
  rw [names_eq_of_directory h, Except.ok.injEq] at hnames
  rw [← hnames, List.mem_filterMap, get?, ← Std.ExtTreeMap.mem_iff_isSome_getElem?,
    ← Std.ExtTreeMap.mem_keys]
  constructor
  · rintro ⟨key, hkey, hname⟩
    split at hname
    · next other around =>
      split at hname
      · next heq =>
        cases hname
        exact heq ▸ hkey
      · cases hname
    · cases hname
  · exact fun hkey => ⟨name :: place, hkey, if_pos rfl⟩

theorem names_toOption_of_ne_directory (h : tree.get? place ≠ some .directory) :
    (tree.names place).toOption = none := by
  rw [names, lookup]
  cases hget : tree.get? place with
  | none => rfl
  | some entry =>
    cases entry with
    | directory => exact absurd hget h
    | file content => rfl

/-- No name stands twice in a directory. -/
theorem nodup_names {names : List String} (hnames : tree.names place = .ok names) :
    names.Nodup := by
  rw [FileTree.names, bind_eq_ok_iff] at hnames
  obtain ⟨entry, -, h⟩ := hnames
  split at h
  · cases h
    refine List.Pairwise.filterMap _ ?_ Std.ExtTreeMap.nodup_keys
    rintro (_ | ⟨a, p⟩) (_ | ⟨b, q⟩) hne name ha other hb <;> grind
  · cases h

/-- Directories with entries of the same names have the same names. -/
theorem names_perm {names names' : List String} (h : tree.get? place = some .directory)
    (hnames : tree.names place = .ok names) (h' : tree'.get? place = some .directory)
    (hnames' : tree'.names place = .ok names')
    (hsame : ∀ name, tree'.get? (name :: place) = tree.get? (name :: place)) : names'.Perm names := by
  refine (List.perm_ext_iff_of_nodup (nodup_names hnames') (nodup_names hnames)).2 fun name => ?_
  rw [mem_names_iff h' hnames', mem_names_iff h hnames, hsame]

end Concordance.FileTree
