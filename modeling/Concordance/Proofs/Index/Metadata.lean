import Concordance.Index.Metadata
import Concordance.Proofs.Json.Record

/-!
# Metadata, written and read

Metadata are read back from the record that is written of them, whatever texts and paths they hold
(`Metadata.parse?_render`).
-/

namespace Concordance.Metadata

open Json

/-- The settings are read back member by member. -/
theorem taken_settings (settings : Settings) :
    Taken settingsMembers {} [
      ("stop_words", writeOptional settings.stopWords),
      ("typos", writeOptional settings.typos),
      ("lemma_dictionary", writeOptional settings.dictionary)]
      ⟨some settings.stopWords, some settings.typos, some settings.dictionary⟩ :=
  .cons rfl ((readsBack_optional _).member rfl) <| .cons rfl ((readsBack_optional _).member rfl) <|
    .cons rfl ((readsBack_optional _).member rfl) (.nil _)

theorem readsBack_settings (settings : Settings) :
    ReadsBack readSettings (renderSettings settings) settings := by
  intro rest hrest
  rw [readSettings, renderSettings,
    readsBack_object (taken_settings settings) (List.cons_ne_nil _ _) rest hrest]
  rfl

/-- The metadata are read back member by member. -/
theorem taken_metadata (metadata : Metadata) :
    Taken members {} [
      ("num_docs", Decimal.digits metadata.numDocs.toNat),
      ("created_at", Quoted.encode metadata.createdAt.toList),
      ("version", Decimal.digits metadata.version.toNat),
      ("normalizer", renderSettings metadata.settings)]
      ⟨some metadata.numDocs, some metadata.createdAt, some metadata.version,
        some metadata.settings⟩ :=
  .cons rfl ((readsBack_uint32 _).member rfl) <| .cons rfl ((readsBack_text _).member rfl) <|
    .cons rfl ((readsBack_uint32 _).member rfl) <|
      .cons rfl ((readsBack_settings _).member rfl) (.nil _)

/-- Metadata are read back from what is written of them. -/
theorem parse?_render (metadata : Metadata) : parse? metadata.render = some metadata := by
  have hread := readRecord_object 0 (taken_metadata metadata) (List.cons_ne_nil _ _) []
  rw [List.append_nil] at hread
  rw [parse?, render, String.toList_ofList, hread]
  rfl

end Concordance.Metadata
