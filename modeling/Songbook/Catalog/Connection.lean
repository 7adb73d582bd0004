import Songbook.Catalog.Fallible
import Songbook.Catalog.Table

/-!
# Connections

How a song table is changed: by statements on a connection to it, one after
the other. A statement changes the table as a whole or not at all, but when
one fails, what those before it did is done. Statements that are to be undone
together stand in a transaction. It is undone when it is rolled back, and also
when the connection ends before it was committed.
-/

namespace Songbook

/-- A connection to a song table. -/
structure Connection where
  /-- The table as the statements so far have made it. -/
  table : Table
  /-- Inside a transaction, the table to go back to. -/
  saved : Option Table

namespace Connection

/-- A connection on which nothing was done yet. -/
def ofTable (table : Table) : Connection :=
  ⟨table, none⟩

/-- The table that is left when the connection ends. -/
def closed (connection : Connection) : Table :=
  connection.saved.getD connection.table

end Connection

/-- What is done on a connection. -/
abbrev Exchange := Fallible CatalogError Connection

namespace Exchange

/-- A statement that makes another table of the table, or fails. -/
def change (f : Table → Except CatalogError Table) : Exchange Unit := do
  let connection ← get
  let table ← f connection.table
  set { connection with table }

/-- Begins a transaction; there is one at a time. -/
def beginTransaction : Exchange Unit := do
  let connection ← get
  match connection.saved with
  | none => set { connection with saved := some connection.table }
  | some _ => throw .database

/-- Ends a transaction and keeps what was done in it. -/
def commit : Exchange Unit := do
  let connection ← get
  match connection.saved with
  | some _ => set { connection with saved := none }
  | none => throw .database

/-- Ends a transaction and goes back to the table it began with. -/
def rollback : Exchange Unit := do
  let connection ← get
  match connection.saved with
  | some table => set (Connection.ofTable table)
  | none => throw .database

/-- Adds a song. -/
def add (song : Song) : Exchange Unit :=
  change (·.add song)

/-- Adds songs one after the other in one transaction and says how many there
are. -/
def addAll (songs : List Song) : Exchange Nat := do
  beginTransaction
  try
    songs.forM add
  catch error =>
    -- Why the songs were not added is what counts, not how the rollback went.
    try rollback catch _ => pure ()
    throw error
  commit
  pure songs.length

end Exchange

end Songbook
