import Songbook.Catalog.Connection
import Songbook.Config
import Songbook.Filter.Outcome
import Songbook.Search

/-!
# Catalogs

What a directory holds of a catalog: the text of its configuration file and
its song table, either of which may be missing. A catalog without a table is
not initialized, and every request for songs fails on it.
-/

namespace Songbook

/-- A directory that holds a catalog, or may come to hold one. -/
structure Catalog where
  root : String
  /-- What the configuration file says, if there is one. -/
  configText : Option String
  /-- The song table, if the catalog is initialized. -/
  table? : Option Table

namespace Catalog

/-- A directory with nothing in it. -/
def atRoot (root : String) : Catalog :=
  ⟨root, none, none⟩

/-- The configuration of a catalog, which has to read if there is a file. -/
def config (catalog : Catalog) : Except CatalogError Config :=
  Config.load catalog.root catalog.configText

/-- Whether there is a song table. -/
def isInitialized (catalog : Catalog) : Bool :=
  catalog.table?.isSome

/-- The song table, which has to be there. -/
def table (catalog : Catalog) : Except CatalogError Table :=
  match catalog.table? with
  | some table => .ok table
  | none => .error (.notInitialized catalog.root)

/-- Runs a filter over the visible songs of a catalog. -/
def filter (catalog : Catalog) (form : Filter.Form) (address : String)
    (now : Instant) : Except CatalogError Filter.Outcome :=
  Filter.run form address (catalog.table.map Table.visible) now

/-- The visible songs of a catalog that a query finds. -/
def search (catalog : Catalog) (query : String) :
    Except CatalogError (List Song) :=
  catalog.table.map fun table => Search.find query table.visible

end Catalog

/-! ## Requests

A request that fails leaves the catalog as it was. Nothing in how requests are
made says so, since what one did before it failed stays done; each has its own
reason. -/

/-- What is asked of a catalog. -/
abbrev Request := Fallible CatalogError Catalog

namespace Request

variable {α : Type}

/-- Asks what leaves the catalog as it is. -/
def ask (question : Catalog → Except CatalogError α) : Request α := do
  let catalog ← get
  question catalog

/-- Connects to the song table, which has to be there. -/
def connect (exchange : Exchange α) : Request α := do
  let catalog ← get
  let table ← catalog.table
  let (answer, connection) := exchange.on (.ofTable table)
  set { catalog with table? := some connection.closed }
  answer

/-- Writes a configuration of the directory down. -/
def save (config : Config) : Request Unit := do
  let catalog ← get
  let text ← config.save
  set { catalog with configText := some text }

/-- Makes an empty song table and writes the configuration down. -/
def create : Request Unit := do
  let catalog ← get
  let config ← catalog.config
  if catalog.isInitialized then
    throw (.alreadyInitialized catalog.root)
  set { catalog with table? := some .empty }
  save config

end Request

end Songbook
