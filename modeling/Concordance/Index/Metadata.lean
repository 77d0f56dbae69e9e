import Concordance.Index.Settings
import Concordance.Json.Record

/-!
# Metadata of an index

Beside its listings an index keeps how many documents it has, when it was made, the version
of its format, and the settings of its normalizer. `render` writes this as a record in JSON,
and `parse?` reads it; settings that are missing are the default ones.
-/

namespace Concordance

/-- What is known of an index as a whole. -/
structure Metadata where
  /-- The number of documents. -/
  numDocs : UInt32
  /-- When the index was made. -/
  createdAt : String
  /-- The version of the format. -/
  version : UInt32
  /-- The settings of the normalizer. -/
  settings : Settings
  deriving Repr, DecidableEq

namespace Metadata

open Json

/-- The version of the format that is written. -/
def currentVersion : UInt32 := 1

/-! ## Writing -/

/-- The settings as an object. -/
def renderSettings (settings : Settings) : List Char :=
  writeObject 1 [
    ("stop_words", writeOptional settings.stopWords),
    ("typos", writeOptional settings.typos),
    ("lemma_dictionary", writeOptional settings.dictionary)]

/-- The metadata as an object. -/
def render (metadata : Metadata) : String :=
  String.ofList (writeObject 0 [
    ("num_docs", Decimal.digits metadata.numDocs.toNat),
    ("created_at", Quoted.encode metadata.createdAt.toList),
    ("version", Decimal.digits metadata.version.toNat),
    ("normalizer", renderSettings metadata.settings)])

/-! ## Reading -/

/-- The members of settings that are known. -/
structure SettingsDraft where
  /-- The list of stop words. -/
  stopWords : Option (Option String) := none
  /-- The list of typos. -/
  typos : Option (Option String) := none
  /-- The dictionary of word forms. -/
  dictionary : Option (Option String) := none

/-- The settings, missing members left out. -/
def SettingsDraft.settings (draft : SettingsDraft) : Settings :=
  ⟨draft.stopWords.join, draft.typos.join, draft.dictionary.join⟩

/-- The members of settings. -/
def settingsMembers : List (String × Member SettingsDraft) := [
  ("stop_words", member (·.stopWords) readOptional fun d v => { d with stopWords := some v }),
  ("typos", member (·.typos) readOptional fun d v => { d with typos := some v }),
  ("lemma_dictionary", member (·.dictionary) readOptional fun d v =>
    { d with dictionary := some v })]

/-- Settings behind blanks. -/
def readSettings : Reader Settings := fun s => do
  let (draft, rest) ← readRecord settingsMembers {} s
  return (draft.settings, rest)

/-- The members of metadata that are known. -/
structure Draft where
  /-- The number of documents. -/
  numDocs : Option UInt32 := none
  /-- When the index was made. -/
  createdAt : Option String := none
  /-- The version of the format. -/
  version : Option UInt32 := none
  /-- The settings of the normalizer. -/
  settings : Option Settings := none

/-- The metadata, if no member but the settings is missing. -/
def Draft.metadata? (draft : Draft) : Option Metadata := do
  return ⟨← draft.numDocs, ← draft.createdAt, ← draft.version, draft.settings.getD {}⟩

/-- The members of metadata. -/
def members : List (String × Member Draft) := [
  ("num_docs", member (·.numDocs) readUInt32 fun d v => { d with numDocs := some v }),
  ("created_at", member (·.createdAt) readText fun d v => { d with createdAt := some v }),
  ("version", member (·.version) readUInt32 fun d v => { d with version := some v }),
  ("normalizer", member (·.settings) readSettings fun d v => { d with settings := some v })]

/-- The metadata that a text holds; nothing but blanks may follow. -/
def parse? (text : String) : Option Metadata := do
  let (draft, rest) ← readRecord members {} text.toList
  if (skipGaps rest).isEmpty then draft.metadata? else none

end Metadata

end Concordance
