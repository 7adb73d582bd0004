import Songbook.Catalog.Table
import Songbook.Song.Record

/-!
# Song tables as text

The form in which a song table is kept in a file: the records of its songs, in
the order in which they came.
-/

namespace Songbook.Table

/-- A table as the text of a file: its songs as records, in the order in which
they came. -/
def text (table : Table) : String :=
  Song.printAll table.songs

/-- The song of a record that leaves nothing to fill in. -/
def songOf? (draft : Song.Draft) : Option Song :=
  match draft.id, draft.dateAdded with
  | some id, some dateAdded => some (draft.complete id dateAdded)
  | _, _ => none

/-- Reads a table. Its songs have to be ones that a table can keep, each under
an id of its own. -/
def ofText? (text : String) : Option Table := do
  let drafts ← Song.Draft.listOfText? text
  let songs ← drafts.mapM songOf?
  (empty.addAll songs).toOption

end Songbook.Table
