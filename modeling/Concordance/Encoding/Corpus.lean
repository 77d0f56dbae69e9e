import Concordance.Document
import Concordance.Encoding.Bytes

/-!
# Binary encoding of a corpus

The documents by number, each with its number, text, tokens and lemma groups, followed by the
addresses by number. Bytes behind a complete corpus are passed over.
-/

namespace Concordance

open Encoding

/-- Lemma groups as a map of sets. -/
def LemmaGroups.encode (groups : LemmaGroups) : List UInt8 :=
  putMap putText (putSet putText) groups

/-- The fields of a document in their order. -/
def Document.encode (doc : Document) : List UInt8 :=
  putUInt32 doc.id ++ (putText doc.text ++ (putList putText doc.tokens ++
    doc.lemmaGroups.encode))

/-- The fields of a document in their order. -/
def Document.decode : Reader Document := fun bytes => do
  let (id, rest) ← getUInt32 bytes
  let (text, rest) ← getText rest
  let (tokens, rest) ← getList getText rest
  let (lemmaGroups, rest) ← getMap getText (getSet getText) rest
  return (⟨id, text, tokens, lemmaGroups⟩, rest)

/-- The documents and the addresses of a corpus. -/
def Corpus.encode (corpus : Corpus) : List UInt8 :=
  putMap putUInt32 Document.encode corpus.documents ++ putMap putUInt32 putText corpus.urls

/-- The corpus at the front of a list of bytes. -/
def Corpus.decode? (bytes : List UInt8) : Option Corpus := do
  let (documents, rest) ← getMap getUInt32 Document.decode bytes
  let (urls, _) ← getMap getUInt32 getText rest
  return ⟨documents, urls⟩

end Concordance
