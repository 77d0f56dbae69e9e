import Concordance.Archive.Compressed
import Concordance.Archive.Tape
import Concordance.FileTree.Edit
import Concordance.Index.Layout

/-!
# The archive of pages

Fetched pages are packed into one compressed archive beside the index, each under the name it
has below the directory of the index. The archive is begun before the pages are read, so it
exists also when a page is missing.
-/

namespace Concordance.PageArchive

open FileTree (Edit)

/-- Why pages cannot be archived. -/
inductive Failure
  /-- The archive cannot be written. -/
  | creating (place : Place) (fault : FileTree.Fault)
  /-- A page cannot be read. -/
  | page (id : DocId) (place : Place) (fault : FileTree.Fault)
  deriving Repr, DecidableEq

/-- What was being done, followed by what went wrong. -/
def Failure.chain : Failure → String
  | creating place fault => "creating " ++ place.path ++ ": " ++ fault.message
  | page id place fault => "archiving page " ++ Decimal.render id.toNat ++ ": " ++ fault.message ++
      " when getting metadata for " ++ place.path

/-- The entry of a page. -/
def entry (layout : Layout) (tree : FileTree) (id : DocId) : Except Failure Tape.Entry :=
  let name := "pages/" ++ id.fileName "html"
  match tree.lookup (layout.page id) with
  | .ok (.file content) => .ok ⟨name, some content⟩
  | .ok .directory => .ok ⟨name, none⟩
  | .error fault => .error (.page id (layout.page id) fault)

/-- Write the archive. -/
def write (layout : Layout) (bytes : List UInt8) : Edit Failure Unit :=
  .change fun tree =>
    (tree.write layout.pagesArchive ⟨bytes.toArray⟩).mapError (.creating layout.pagesArchive)

/-- Pack pages into the archive, in the given order, and return what was packed. -/
def pack (layout : Layout) (ids : List DocId) : Edit Failure (List Tape.Entry) := do
  write layout []
  let entries ← Edit.look fun tree => ids.mapM (entry layout tree)
  write layout (Compressed.encode (Tape.encode entries))
  return entries

end Concordance.PageArchive
