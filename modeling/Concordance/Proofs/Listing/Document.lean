import Concordance.Listing.Tokens
import Concordance.Proofs.Listing.LemmaIndex

/-!
# Token listings, and documents that can be listed

Tokens that are trimmed and stand on a line of their own are read back from their listing
(`TokenListing.parse_render`). A document is recorded if this holds of its tokens and if its lemma
groups are recorded.
-/

namespace Concordance

open Text

/-- Tokens that are trimmed and have lines of their own are read back from their listing. -/
theorem TokenListing.parse_render {tokens : List String} (hline : ∀ t ∈ tokens, IsLine t.toList)
    (htrim : ∀ t ∈ tokens, trimChars t.toList = t.toList) : parse (render tokens) = tokens := by
  have hlines : lineChars (render tokens).toList = tokens.map String.toList := by
    rw [render, String.toList_ofList]
    exact lineChars_joinWith (by simpa using hline)
  have htrimmed : (tokens.map String.toList).map trimChars = tokens.map String.toList := by
    rw [List.map_map]
    exact List.map_congr_left htrim
  have hkept : (tokens.map String.toList).filter (!·.isEmpty) = tokens.map String.toList := by
    refine List.filter_eq_self.2 fun l hl => ?_
    obtain ⟨t, ht, rfl⟩ := List.mem_map.1 hl
    simpa using (hline t ht).ne_nil
  rw [parse, hlines, htrimmed, hkept, List.map_map]
  refine (List.map_congr_left fun t _ => ?_).trans (List.map_id tokens)
  exact String.ofList_toList

/-- A document whose tokens and lemma groups can be listed. -/
structure Document.Recorded (doc : Document) : Prop where
  /-- Each token stands on a line of its own. -/
  line : ∀ t ∈ doc.tokens, IsLine t.toList
  /-- Each token is trimmed. -/
  trimmed : ∀ t ∈ doc.tokens, trimChars t.toList = t.toList
  /-- The lemma groups can be listed. -/
  groups : doc.lemmaGroups.Recorded

end Concordance
