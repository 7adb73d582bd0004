import Songbook.Filter.Fault
import Songbook.Song.Id

/-!
# What can go wrong with a catalog

The causes for which a request to a catalog fails. Those that arise outside of
it, in its files and in the texts that are read, have their causes told
elsewhere; here they are only told apart.
-/

namespace Songbook

/-- Why a request to a catalog fails. -/
inductive CatalogError
  /-- A file cannot be read or written. -/
  | io
  /-- The song table does not take a record. -/
  | database
  /-- A text is no list of song records. -/
  | json
  /-- The configuration does not read or cannot be written. -/
  | config
  | notInitialized (root : String)
  | alreadyInitialized (root : String)
  | songNotFound (id : SongId)
  | malformedFilter (fault : Filter.SchemaFault)
deriving DecidableEq

namespace CatalogError

/-- What is said about an error; of the errors that arise outside, only the
beginning. -/
def message : CatalogError → String
  | io => "IO error: "
  | database => "DuckDB error: "
  | json => "JSON error: "
  | config => "Configuration error: "
  | notInitialized root => "Catalog not initialized at " ++ root
  | alreadyInitialized root => "Catalog already initialized at " ++ root
  | songNotFound id => "Not found: song " ++ id.text
  | malformedFilter fault => "Malformed filter: " ++ fault.message

/-- Whether an error arises outside of the catalog, so that more is to be said
than its message. -/
def isExternal : CatalogError → Bool
  | io | database | json | config => true
  | notInitialized _ | alreadyInitialized _ | songNotFound _
  | malformedFilter _ => false

end CatalogError

end Songbook
