import Concordance.FileTree.Change

/-!
# What a change does to each place

A tree is known by what stands at each place (`FileTree.ext_get?`). The changes of a tree are
described in these terms : when they succeed, and what stands at each place afterwards. Writing a
file or removing one concerns its place alone, removing a directory the places at and below it
(`exists_write`, `exists_removeFile`, `exists_removeTree`).

A file is saved, with the directories that lead to it, exactly where no directory stands and no file
is on the way (`Writable.exists_save`, `writable_of_save`). Most files are saved in a directory that
exists (`exists_save_child`), or in one around which there is a directory and which is made with its
first file (`exists_save_grandchild`).
-/

namespace Concordance.FileTree

variable {tree tree' : FileTree} {name sub : String} {around place : Place} {content : ByteArray}

/-! ## Places and what stands around them -/

theorem not_cons_suffix_self : ¬name :: around <:+ around := fun h => by
  have := h.length_le
  rw [List.length_cons] at this
  omega

@[simp] theorem get?_nil : tree.get? [] = some .directory := rfl

/-- Trees with the same entries at all places are equal. -/
theorem ext_get? (h : ∀ place, tree.get? place = tree'.get? place) : tree = tree' := by
  refine ext (Std.ExtTreeMap.ext_getElem? fun place => ?_)
  cases place with
  | nil =>
    rw [Std.ExtTreeMap.getElem?_eq_none tree.top, Std.ExtTreeMap.getElem?_eq_none tree'.top]
  | cons name around => exact h (name :: around)

theorem get?_around_of_get? {entry : Entry} (h : tree.get? (name :: around) = some entry) :
    tree.get? around = some .directory := by
  have hmem : name :: around ∈ tree.entries := by
    rw [Std.ExtTreeMap.mem_iff_isSome_getElem?, show tree.entries[name :: around]? = _ from h]
    rfl
  exact get?_around hmem

/-- Only directories lead to an entry. -/
theorem get?_of_suffix {entry : Entry} (hsuffix : around <:+ place) (hne : around ≠ place)
    (h : tree.get? place = some entry) : tree.get? around = some .directory := by
  induction place generalizing entry with
  | nil => exact absurd (List.suffix_nil.1 hsuffix) hne
  | cons name rest ih =>
    have hrest : tree.get? rest = some .directory := get?_around_of_get? h
    have hsuffix : around <:+ rest := (List.suffix_cons_iff.1 hsuffix).resolve_left hne
    by_cases heq : around = rest
    · rwa [heq]
    · exact ih hsuffix heq hrest

/-- Nothing stands below a place without a directory. -/
theorem get?_eq_none_of_suffix (hsuffix : around <:+ place) (hne : around ≠ place)
    (h : tree.get? around ≠ some .directory) : tree.get? place = none := by
  cases hget : tree.get? place with
  | none => rfl
  | some entry => exact absurd (get?_of_suffix hsuffix hne hget) h

/-- Below places that are no directories two trees are the same. -/
theorem get?_eq_of_suffix (hsuffix : around <:+ place) (hne : place ≠ around)
    (h : tree.get? around ≠ some .directory) (h' : tree'.get? around ≠ some .directory) :
    tree'.get? place = tree.get? place := by
  rw [get?_eq_none_of_suffix hsuffix hne.symm h, get?_eq_none_of_suffix hsuffix hne.symm h']

/-- Trees with the same entries at some places agree there. -/
theorem get?_eq_of_filter {among : Place → Bool}
    (h : tree'.entries.filter (fun key _ => among key) = tree.entries.filter fun key _ => among key)
    (hplace : among place = true) : tree'.get? place = tree.get? place := by
  cases place with
  | nil => rfl
  | cons name rest =>
    have hall : ∀ found : Option Entry, found.filter (fun _ => true) = found :=
      fun found => by cases found <;> rfl
    have hentry := congrArg (·[name :: rest]?) h
    simp only [Std.ExtTreeMap.getElem?_filter', hplace, hall] at hentry
    exact hentry

/-- Trees with the same entries at and below a place agree there. -/
theorem get?_eq_of_filter_eq
    (h : tree'.entries.filter (fun key _ => around.isSuffixOf key) =
      tree.entries.filter fun key _ => around.isSuffixOf key)
    (hsuffix : around <:+ place) : tree'.get? place = tree.get? place :=
  get?_eq_of_filter h (List.isSuffixOf_iff_suffix.2 hsuffix)

theorem ne_directory_of_file (h : tree.get? place = some (.file content)) :
    tree.get? place ≠ some .directory := by
  rw [h]
  simp

theorem obstacle_of_directory (h : tree.get? around = some .directory) :
    tree.obstacle around = .notFound := by
  cases around with
  | nil => rfl
  | cons name around => rw [obstacle, h]

theorem lookup_of_get? {entry : Entry} (h : tree.get? place = some entry) :
    tree.lookup place = .ok entry := by
  rw [lookup, h]

theorem lookup_of_get?_eq_none (hnone : tree.get? (name :: around) = none)
    (haround : tree.get? around = some .directory) :
    tree.lookup (name :: around) = .error .notFound := by
  rw [lookup, hnone]
  exact congrArg _ (obstacle_of_directory haround)

/-! ## Single changes -/

theorem get?_put {entry : Entry} (inside : tree.get? around = some .directory)
    (free : tree.get? (name :: around) ≠ some .directory) :
    (tree.put name around entry inside free).get? place =
      if place = name :: around then some entry else tree.get? place := by
  cases place with
  | nil => simp
  | cons n a =>
    show (tree.entries.insert (name :: around) entry)[n :: a]? = _
    rw [Std.ExtTreeMap.getElem?_insert]
    simp only [Std.LawfulEqCmp.compare_eq_iff_eq, eq_comm (a := name :: around)]
    rfl

theorem get?_dropFile (isFile : tree.get? place = some (.file content)) {other : Place} :
    (tree.dropFile place content isFile).get? other =
      if other = place then none else tree.get? other := by
  cases other with
  | nil =>
    have hne : [] ≠ place := by
      rintro rfl
      simp at isFile
    rw [if_neg hne]
    rfl
  | cons n a =>
    show (tree.entries.erase place)[n :: a]? = _
    rw [Std.ExtTreeMap.getElem?_erase]
    simp only [Std.LawfulEqCmp.compare_eq_iff_eq, eq_comm (a := place)]
    rfl

theorem get?_dropTree {other : Place} :
    (tree.dropTree (name :: around)).get? other =
      if name :: around <:+ other then none else tree.get? other := by
  cases other with
  | nil => simp
  | cons n a =>
    show (tree.entries.filter fun key _ => !(name :: around).isSuffixOf key)[n :: a]? = _
    rw [Std.ExtTreeMap.getElem?_filter']
    by_cases h : name :: around <:+ n :: a
    · have hbelow : (name :: around).isSuffixOf (n :: a) = true :=
        List.isSuffixOf_iff_suffix.2 h
      simp [h, hbelow]
    · have hbelow : (name :: around).isSuffixOf (n :: a) = false :=
        Bool.eq_false_iff.2 (mt List.isSuffixOf_iff_suffix.1 h)
      simp only [hbelow, Bool.not_false, if_neg h, get?]
      cases tree.entries[n :: a]? <;> rfl

/-- A file is written into a directory where no directory stands. -/
theorem exists_write (haround : tree.get? around = some .directory)
    (hfree : tree.get? (name :: around) ≠ some .directory) (content : ByteArray) :
    ∃ tree', tree.write (name :: around) content = .ok tree' ∧ ∀ place, tree'.get? place =
      if place = name :: around then some (.file content) else tree.get? place := by
  rw [write, dif_pos haround, dif_pos hfree]
  exact ⟨_, rfl, fun place => get?_put haround hfree⟩

theorem write_of_directory (haround : tree.get? around = some .directory)
    (hdir : tree.get? (name :: around) = some .directory) (content : ByteArray) :
    tree.write (name :: around) content = .error .isDirectory := by
  rw [write, dif_pos haround, dif_neg (not_not_intro hdir)]

/-- A file that is there is removed. -/
theorem exists_removeFile (hfile : tree.get? place = some (.file content)) :
    ∃ tree', tree.removeFile place = .ok tree' ∧
      ∀ other, tree'.get? other = if other = place then none else tree.get? other := by
  rw [removeFile]
  split
  · next content' hfile' => exact ⟨_, rfl, fun other => get?_dropFile hfile'⟩
  · next hdir => simp [hfile] at hdir
  · next hnone => simp [hfile] at hnone

theorem removeFile_of_directory (hdir : tree.get? place = some .directory) :
    tree.removeFile place = .error .isDirectory := by
  rw [removeFile]
  split
  · next content' hfile => simp [hdir] at hfile
  · rfl
  · next hnone => simp [hdir] at hnone

theorem removeFile_of_get?_eq_none (hnone : tree.get? (name :: around) = none)
    (haround : tree.get? around = some .directory) :
    tree.removeFile (name :: around) = .error .notFound := by
  rw [removeFile]
  split
  · next content' hfile => simp [hnone] at hfile
  · next hdir => simp [hnone] at hdir
  · exact congrArg _ (obstacle_of_directory haround)

/-- A directory that is there is removed with all below it. -/
theorem exists_removeTree (hdir : tree.get? (name :: around) = some .directory) :
    ∃ tree', tree.removeTree (name :: around) = .ok tree' ∧
      ∀ other, tree'.get? other =
        if name :: around <:+ other then none else tree.get? other := by
  rw [removeTree, lookup_of_get? hdir]
  exact ⟨_, rfl, fun other => get?_dropTree⟩

theorem removeTree_of_file (hfile : tree.get? place = some (.file content)) :
    tree.removeTree place = .error .notDirectory := by
  rw [removeTree, lookup_of_get? hfile]
  rfl

theorem removeTree_of_get?_eq_none (hnone : tree.get? (name :: around) = none)
    (haround : tree.get? around = some .directory) :
    tree.removeTree (name :: around) = .error .notFound := by
  rw [removeTree, lookup_of_get?_eq_none hnone haround]
  rfl

/-! ## Making directories -/

theorem makeDirectories_of_directory (h : tree.get? place = some .directory) :
    tree.makeDirectories place = .ok tree := by
  cases place with
  | nil => rfl
  | cons name around => rw [makeDirectories, h]

/-- A directory is merely missing if no file stands at it or on the way to it. -/
theorem obstacle_eq_notFound_iff : tree.obstacle place = .notFound ↔
    ∀ dir, dir <:+ place → ∀ bytes, tree.get? dir ≠ some (.file bytes) := by
  induction place with
  | nil =>
    refine iff_of_true rfl fun dir hdir bytes => ?_
    rw [List.suffix_nil.1 hdir]
    simp
  | cons name around ih =>
    rw [obstacle]
    cases hget : tree.get? (name :: around) with
    | none =>
      simp only [ih, List.suffix_cons_iff, forall_eq_or_imp, hget]
      simp
    | some entry =>
      cases entry with
      | directory =>
        refine iff_of_true rfl fun dir hdir bytes => ?_
        by_cases heq : dir = name :: around
        · simp [heq, hget]
        · simp [get?_of_suffix hdir heq hget]
      | file content => exact iff_of_false (by simp) fun h => h _ (List.suffix_refl _) content hget

/-- Where no file is in the way, a directory is made together with all that lead to it. -/
theorem exists_makeDirectories
    (hclear : ∀ dir, dir <:+ place → ∀ bytes, tree.get? dir ≠ some (.file bytes)) :
    ∃ made, tree.makeDirectories place = .ok made ∧ ∀ other, made.get? other =
      if other <:+ place then some .directory else tree.get? other := by
  induction place with
  | nil =>
    refine ⟨tree, rfl, fun other => ?_⟩
    by_cases hother : other = []
    · simp [hother]
    · simp [hother]
  | cons name around ih =>
    cases hget : tree.get? (name :: around) with
    | none =>
      have habove : ∀ dir, dir <:+ around → ∀ bytes, tree.get? dir ≠ some (.file bytes) :=
        fun dir hdir => hclear dir (hdir.trans (List.suffix_cons name around))
      have hself : ¬name :: around <:+ around := not_cons_suffix_self
      obtain ⟨made, hmake, hmade⟩ := ih habove
      have hinside : made.get? around = some .directory := by simp [hmade]
      have hfree : made.get? (name :: around) = none := by simp [hmade, hself, hget]
      have hput : made.get? (name :: around) ≠ some .directory := by simp [hfree]
      refine ⟨made.put name around .directory hinside hput, ?_, fun other => ?_⟩
      · rw [makeDirectories, hget, obstacle_eq_notFound_iff.2 habove, hmake]
        show made.makeDirectory (name :: around) = _
        rw [makeDirectory, dif_pos hinside, dif_pos hfree]
      · simp only [get?_put, hmade, List.suffix_cons_iff]
        by_cases hother : other = name :: around
        · simp [hother]
        · simp [hother]
    | some entry =>
      cases entry with
      | file content => exact absurd hget (hclear _ (List.suffix_refl _) content)
      | directory =>
        refine ⟨tree, makeDirectories_of_directory hget, fun other => ?_⟩
        by_cases hother : other = name :: around
        · simp [hother, hget]
        · split
          · next hsuffix => exact get?_of_suffix hsuffix hother hget
          · rfl

theorem clear_of_makeDirectories {made : FileTree} (h : tree.makeDirectories place = .ok made) :
    ∀ dir, dir <:+ place → ∀ bytes, tree.get? dir ≠ some (.file bytes) := by
  cases place with
  | nil => exact obstacle_eq_notFound_iff.1 rfl
  | cons name around =>
    refine obstacle_eq_notFound_iff.1 ?_
    rw [obstacle]
    rw [makeDirectories] at h
    cases hget : tree.get? (name :: around) with
    | none =>
      simp only [hget] at h ⊢
      split at h
      · assumption
      · cases h
    | some entry =>
      cases entry with
      | directory => rfl
      | file content => simp [hget] at h

/-! ## Saving files -/

/-- A file can be saved at a place : no directory stands there, and no file on the way to it. -/
structure Writable (tree : FileTree) (place : Place) : Prop where
  /-- No directory stands there. -/
  free : tree.get? place ≠ some .directory
  /-- No file stands on the way. -/
  clear : ∀ dir, dir <:+ place → dir ≠ place → ∀ bytes, tree.get? dir ≠ some (.file bytes)

/-- A file is saved together with the directories that lead to it. -/
theorem Writable.exists_save (h : tree.Writable place) (content : ByteArray) :
    ∃ tree', tree.save place content = .ok tree' ∧ ∀ other, tree'.get? other =
      if other = place then some (.file content)
      else if other <:+ place then some .directory else tree.get? other := by
  cases place with
  | nil => exact absurd get?_nil h.free
  | cons name around =>
    have hself : ¬name :: around <:+ around := not_cons_suffix_self
    have hclear : ∀ dir, dir <:+ around → ∀ bytes, tree.get? dir ≠ some (.file bytes) :=
      fun dir hdir => h.clear dir (hdir.trans (List.suffix_cons name around))
        fun heq => hself (heq ▸ hdir)
    obtain ⟨made, hmake, hmade⟩ := exists_makeDirectories hclear
    have hinside : made.get? around = some .directory := by simp [hmade]
    have hfree : made.get? (name :: around) ≠ some .directory := by simpa [hmade, hself] using h.free
    obtain ⟨tree', hwrite, hview⟩ := exists_write hinside hfree content
    refine ⟨tree', by rw [save, List.tail_cons, hmake]; exact hwrite, fun other => ?_⟩
    rw [hview, hmade]
    by_cases hother : other = name :: around
    · simp [hother]
    · simp [hother, List.suffix_cons_iff]

theorem writable_of_save (h : tree.save place content = .ok tree') : tree.Writable place := by
  cases place with
  | nil => cases h
  | cons name around =>
    rw [save, List.tail_cons] at h
    cases hmake : tree.makeDirectories around with
    | error fault => simp [hmake, bind, Except.bind] at h
    | ok made =>
      have hclear := clear_of_makeDirectories hmake
      obtain ⟨made', hmake', hmade⟩ := exists_makeDirectories hclear
      obtain rfl := Except.ok.inj (hmake.symm.trans hmake')
      have hinside : made.get? around = some .directory := by simp [hmade]
      rw [hmake] at h
      refine ⟨fun hdir => ?_, fun dir hdir hne => hclear dir ?_⟩
      · have hmadedir : made.get? (name :: around) = some .directory := by
          rw [hmade, hdir, ite_self]
        exact nomatch (write_of_directory hinside hmadedir content).symm.trans h
      · exact (List.suffix_cons_iff.1 hdir).resolve_left hne

/-- A file is saved in a directory where no directory stands. -/
theorem exists_save_child (haround : tree.get? around = some .directory)
    (hfree : tree.get? (name :: around) ≠ some .directory) (content : ByteArray) :
    ∃ tree', tree.save (name :: around) content = .ok tree' ∧ ∀ place, tree'.get? place =
      if place = name :: around then some (.file content) else tree.get? place := by
  rw [save, List.tail_cons, makeDirectories_of_directory haround]
  exact exists_write haround hfree content

theorem save_of_directory (haround : tree.get? around = some .directory)
    (hdir : tree.get? (name :: around) = some .directory) (content : ByteArray) :
    tree.save (name :: around) content = .error .isDirectory := by
  rw [save, List.tail_cons, makeDirectories_of_directory haround]
  exact write_of_directory haround hdir content

/-- A file can be saved where neither a directory nor, around it, a file stands. -/
theorem exists_save_grandchild (haround : tree.get? around = some .directory)
    (hfile : ∀ bytes, tree.get? (sub :: around) ≠ some (.file bytes))
    (hfree : tree.get? (name :: sub :: around) ≠ some .directory) (content : ByteArray) :
    ∃ tree', tree.save (name :: sub :: around) content = .ok tree' ∧ ∀ place, tree'.get? place =
      if place = name :: sub :: around then some (.file content)
      else if place = sub :: around then some .directory else tree.get? place := by
  have habove : ∀ dir, dir <:+ around → tree.get? dir = some .directory := fun dir hdir => by
    by_cases heq : dir = around
    · rw [heq, haround]
    · exact get?_of_suffix hdir heq haround
  have hwritable : tree.Writable (name :: sub :: around) := by
    refine ⟨hfree, fun dir hdir hne bytes => ?_⟩
    rcases List.suffix_cons_iff.1 ((List.suffix_cons_iff.1 hdir).resolve_left hne) with rfl | hdir
    · exact hfile bytes
    · simp [habove dir hdir]
  obtain ⟨tree', hsave, hview⟩ := hwritable.exists_save content
  refine ⟨tree', hsave, fun place => ?_⟩
  rw [hview]
  by_cases hplace : place = name :: sub :: around
  · simp [hplace]
  · by_cases hsub : place = sub :: around
    · simp [hsub]
    · by_cases hdir : place <:+ around
      · simp [hplace, hsub, List.suffix_cons_iff, hdir, habove place hdir]
      · simp [hplace, hsub, List.suffix_cons_iff, hdir]

/-- The tree in which some texts are saved one after the other; what cannot be saved is left out. -/
def ofTexts (texts : List (Place × String)) : FileTree :=
  texts.foldl (fun tree text => (tree.saveText text.1 text.2).toOption.getD tree) empty

end Concordance.FileTree
