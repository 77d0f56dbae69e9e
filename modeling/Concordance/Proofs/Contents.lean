import Std.Data.ExtTreeMap
import Std.Data.ExtTreeSet

/-!
# Maps and sets made again from their contents

A set is the set of its elements (`ofList_elements`), and a map is the map of its entries
(`ofList_entries`). So a map or a set that is written down entry by entry is read back by entering
what was written, and of several entries for one key the last one counts (`getElem?_ofList`). The
values of a map are those of its entries (`values_eq`), and its size depends on its keys alone
(`size_eq_of_mem_iff`).
-/

namespace Concordance

variable {κ β : Type} [Ord κ] [Std.TransOrd κ] [Std.LawfulEqOrd κ]

/-- A set is made again from its elements. -/
theorem ofList_elements (set : Std.ExtTreeSet κ) : Std.ExtTreeSet.ofList set.toList = set := by
  classical
  let : BEq κ := instBEqOfDecidableEq
  refine Std.ExtTreeSet.ext_mem fun k => ?_
  rw [Std.ExtTreeSet.mem_ofList, List.contains_iff_mem, Std.ExtTreeSet.mem_toList]

theorem nodup_elements (set : Std.ExtTreeSet κ) : set.toList.Nodup :=
  Std.ExtTreeSet.distinct_toList.imp fun hne heq => hne (Std.LawfulEqCmp.compare_eq_iff_eq.2 heq)

/-- A map is made again from its entries. -/
theorem ofList_entries (map : Std.ExtTreeMap κ β) : Std.ExtTreeMap.ofList map.toList = map := by
  classical
  let : BEq κ := instBEqOfDecidableEq
  refine Std.ExtTreeMap.ext_getElem? fun k => ?_
  cases hk : map[k]? with
  | some value =>
    exact Std.ExtTreeMap.getElem?_ofList_of_mem Std.ReflCmp.compare_self
      Std.ExtTreeMap.distinct_keys_toList (Std.ExtTreeMap.mem_toList_iff_getElem?_eq_some.2 hk)
  | none =>
    refine Std.ExtTreeMap.getElem?_ofList_of_contains_eq_false ?_
    rw [Std.ExtTreeMap.map_fst_toList_eq_keys, Std.ExtTreeMap.contains_keys]
    exact Std.ExtTreeMap.contains_eq_isSome_getElem?.trans (by rw [hk]; rfl)

omit [Std.LawfulEqOrd κ] in
/-- The values of a map are those of its entries. -/
theorem values_eq (map : Std.ExtTreeMap κ β) : map.values = map.toList.map Prod.snd := by
  have hfold : ∀ map : Std.ExtTreeMap κ β,
      map.values = map.foldr (fun _ value values => value :: values) [] := by
    rintro ⟨⟨map⟩⟩
    rfl
  rw [hfold, Std.ExtTreeMap.foldr_eq_foldr_toList]
  exact List.foldr_cons_eq_append.trans (List.append_nil _)

/-- Maps with the same keys have the same size. -/
theorem size_eq_of_mem_iff {γ : Type} {map : Std.ExtTreeMap κ β} {map' : Std.ExtTreeMap κ γ}
    (h : ∀ k, k ∈ map ↔ k ∈ map') : map.size = map'.size := by
  have hperm : map.keys.Perm map'.keys := by
    refine (List.perm_ext_iff_of_nodup Std.ExtTreeMap.nodup_keys Std.ExtTreeMap.nodup_keys).2 ?_
    intro k
    rw [Std.ExtTreeMap.mem_keys, Std.ExtTreeMap.mem_keys, h]
  rw [← Std.ExtTreeMap.length_keys, ← Std.ExtTreeMap.length_keys, hperm.length_eq]

/-- Of several entries for one key the last one counts. -/
theorem getElem?_ofList [BEq κ] [LawfulBEq κ] (entries : List (κ × β)) (k : κ) :
    (Std.ExtTreeMap.ofList entries)[k]? = (entries.reverse.find? (·.1 == k)).map Prod.snd := by
  have hfold : ∀ (entries : List (κ × β)) (map : Std.ExtTreeMap κ β),
      (entries.foldl (fun map entry => map.insert entry.1 entry.2) map)[k]? =
        ((entries.reverse.find? (·.1 == k)).map Prod.snd).or map[k]? := by
    intro entries
    induction entries with
    | nil => exact fun map => rfl
    | cons entry entries ih =>
      intro map
      rw [List.foldl_cons, ih, List.reverse_cons, List.find?_append, Option.map_or, Option.or_assoc]
      congr 1
      rw [Std.ExtTreeMap.getElem?_insert, List.find?_singleton]
      by_cases hkey : entry.1 = k <;> simp [hkey]
  rw [Std.ExtTreeMap.ofList_eq_foldl]
  exact (hfold entries ∅).trans (by simp)

/-- A map made by a function has its values at the keys it was made for. -/
theorem getElem?_ofList_map [BEq κ] [LawfulBEq κ] [DecidableEq κ] (keys : List κ) (f : κ → β)
    (k : κ) : (Std.ExtTreeMap.ofList (keys.map fun k => (k, f k)))[k]? =
      if k ∈ keys then some (f k) else none := by
  rw [getElem?_ofList, ← List.map_reverse, List.find?_map, Option.map_map]
  cases hfind : keys.reverse.find? ((fun entry => entry.1 == k) ∘ fun k => (k, f k)) with
  | none =>
    have hmem : k ∉ keys := fun h => by
      simpa using List.find?_eq_none.1 hfind k (List.mem_reverse.2 h)
    rw [if_neg hmem]
    rfl
  | some other =>
    obtain rfl : other = k := by simpa using List.find?_some hfind
    rw [if_pos (List.mem_reverse.1 (List.mem_of_find?_eq_some hfind))]
    rfl

/-- Of a map that is made from entries, each entry was among them. -/
theorem mem_of_getElem?_ofList {entries : List (κ × β)} {k : κ} {value : β}
    (h : (Std.ExtTreeMap.ofList entries)[k]? = some value) : (k, value) ∈ entries := by
  classical
  let : BEq κ := instBEqOfDecidableEq
  rw [getElem?_ofList, Option.map_eq_some_iff] at h
  obtain ⟨⟨other, _⟩, hfind, rfl⟩ := h
  obtain rfl : other = k := by simpa using List.find?_some hfind
  exact List.mem_reverse.1 (List.mem_of_find?_eq_some hfind)

end Concordance
