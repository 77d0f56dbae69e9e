import Concordance.Encoding.Corpus
import Concordance.Proofs.Encoding.Bytes

/-!
# A corpus read back from its bytes

A document is read back field by field (`Document.inverts`), and so a corpus of fewer than `2 ^ 64`
bytes is read back from its binary form (`Corpus.decode?_encode`). No corpus at all is read if the end
of that form is missing (`Corpus.decode?_take_eq_none`).
-/

namespace Concordance

open Encoding

theorem LemmaGroups.inverts : Inverts (getMap getText (getSet getText)) LemmaGroups.encode :=
  Inverts.text.map Inverts.text.set

/-- The fields of a document are read back in their order. -/
theorem Document.inverts : Inverts Document.decode Document.encode where
  read doc rest h := by
    simp only [encode, List.length_append] at h
    have htext := Inverts.text.read doc.text
      (putList putText doc.tokens ++ (doc.lemmaGroups.encode ++ rest)) (by omega)
    have htokens := Inverts.text.list.read doc.tokens (doc.lemmaGroups.encode ++ rest) (by omega)
    have hgroups := LemmaGroups.inverts.read doc.lemmaGroups rest (by omega)
    simp only [encode, decode, List.append_assoc, getUInt32_putUInt32, htext, htokens, hgroups,
      Option.bind_eq_bind, Option.bind_some]
    rfl
  pos doc := by
    rw [encode, List.length_append]
    exact Nat.add_pos_left (Inverts.uint32.pos doc.id) _

/-- The maps of a corpus are read back one after the other. -/
theorem Corpus.inverts :
    Inverts (getPair (getMap getUInt32 Document.decode) (getMap getUInt32 getText))
      (putPair (putMap putUInt32 Document.encode) (putMap putUInt32 putText)) :=
  (Inverts.uint32.map Document.inverts).pair (Inverts.uint32.map Inverts.text)

/-- A corpus is read as the pair of its maps; what follows is passed over. -/
theorem Corpus.decode?_eq (bytes : List UInt8) :
    decode? bytes =
      (getPair (getMap getUInt32 Document.decode) (getMap getUInt32 getText) bytes).map
        fun taken => ⟨taken.1.1, taken.1.2⟩ := by
  simp only [decode?, getPair, Option.bind_eq_bind]
  cases getMap getUInt32 Document.decode bytes with
  | none => rfl
  | some documents =>
    simp only [Option.bind_some]
    cases getMap getUInt32 getText documents.2 with
    | none => rfl
    | some urls => rfl

/-- A corpus is read back from its binary form. -/
theorem Corpus.decode?_encode {corpus : Corpus} (h : corpus.encode.length < 2 ^ 64) :
    decode? corpus.encode = some corpus := by
  have hread := Corpus.inverts.read (corpus.documents, corpus.urls) [] h
  rw [List.append_nil] at hread
  rw [decode?_eq, encode]
  exact congrArg _ hread

/-! ## What is cut off -/

theorem Document.extends : Extends Document.decode :=
  .bind .uint32 fun id => .bind .text fun text => .bind (.list .text) fun tokens =>
    .made (Document.mk id text tokens) (.map .text (.set .text))

/-- A corpus is not read from bytes that end before its own do. -/
theorem Corpus.decode?_take_eq_none {corpus : Corpus} (h : corpus.encode.length < 2 ^ 64) {cut : Nat}
    (hcut : cut < corpus.encode.length) : decode? (corpus.encode.take cut) = none := by
  have hextends := Extends.pair (.map .uint32 Document.extends) (.map .uint32 .text)
  have hnone := Corpus.inverts.get_take_eq_none hextends
    (x := (corpus.documents, corpus.urls)) h hcut
  rw [decode?_eq]
  exact congrArg _ hnone

end Concordance
