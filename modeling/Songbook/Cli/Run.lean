import Songbook.Catalog.Basic
import Songbook.Cli.Listing
import Songbook.Cli.Response
import Songbook.Value.Duration

/-!
# Carrying out commands

What each command says and what it makes of the catalog. The configuration is
read first and the song table opened next, but for `init`, which makes the
table, and for the criteria of a filter, which are taken apart before anything
is read. A command that fails has still done what it did before.
-/

namespace Songbook.Cli

open Songbook.Filter

/-- What a command finds around it. -/
structure Surroundings where
  /-- The text of the file at a path, if it can be read. -/
  fileText : String → Option String
  now : Instant
  /-- Ids that no song has. -/
  freshId : Nat → SongId

/-- What may fail. -/
abbrev Attempt := Except Failure

/-- What may fail and is done to a catalog. -/
abbrev Action := Fallible Failure Catalog

/-- What is asked of a catalog, as part of a command. -/
def ofCatalog {α : Type} (result : Except CatalogError α) : Attempt α :=
  result.mapError .catalog

/-- The configuration and the song table of a catalog, in the order in which
they are read. -/
def opened (catalog : Catalog) : Attempt (Config × Table) := do
  let config ← ofCatalog catalog.config
  let table ← ofCatalog catalog.table
  pure (config, table)

namespace Action

/-- Finds out what leaves the catalog as it is. -/
def find {α : Type} (attempt : Catalog → Attempt α) : Action α := do
  let catalog ← get
  attempt catalog

/-- Makes a request to the catalog, as part of a command. -/
def request {α : Type} (request : Request α) : Action α :=
  request.adapt .catalog

end Action

/-- The response of one line. -/
def printLine (line : String) : Response :=
  { out := line ++ "\n" }

/-- Prints songs up to the limit and says how many more there are. -/
def printSongs (config : Config) (format : Format) (songs : List Song) :
    Response where
  out := format.print (withinLimit config.resultLimit songs)
  note := remainder config.resultLimit songs

/-- Prints songs, or a line when there are none. JSON has a text for no songs.
-/
def printSongsOr (line : String) (config : Config) (format : Format)
    (songs : List Song) : Response :=
  if songs.isEmpty && format != .json then printLine line
  else printSongs config format songs

/-! ## Parts of commands -/

/-- The id that a word names, blanks around it left out. -/
def idOf (text : String) : Attempt SongId :=
  match SongId.ofChars? (Text.trim text.toList) with
  | some id => .ok id
  | none => .error (.badId text)

/-- The seconds that a word names, none when there is no word. -/
def secondsOf : Option String → Attempt Int64
  | none => .ok 0
  | some text =>
    match Value.readDuration text with
    | .ok seconds => .ok seconds
    | .error _ => .error (.badDuration text)

/-- The songs of a file to import. Where a record leaves out an id or when it
was added, they are filled in. -/
def songsOf (around : Surroundings) (path : String) : Attempt (List Song) :=
  match around.fileText path with
  | none => .error (.catalog .io)
  | some text =>
    match Song.Draft.listOfText? text with
    | none => .error (.catalog .json)
    | some drafts =>
      .ok <| drafts.zipIdx.map fun (draft, index) =>
        draft.complete (around.freshId index) around.now

/-- The key and the text of a criterion, parted by its first equals sign. -/
def criterion (word : String) : Attempt (String × String) :=
  match (word.toList.dropWhile (· ≠ '=')).tail? with
  | some text =>
    .ok (String.ofList (word.toList.takeWhile (· ≠ '=')), String.ofList text)
  | none => .error (.badCriterion word)

/-- The form of a query string, if there is one, and of criteria, which go
before it. -/
def criteriaForm (criteria : List String) (query : Option String) :
    Attempt Form := do
  let pairs ← criteria.mapM criterion
  pure ((query.elim Form.empty Form.ofQuery).insertAll pairs)

/-- The line that explains a filter, none for one that is malformed. -/
def explanation (form : Form) (address : String) (today : Date) : String :=
  match build form address today with
  | .ok built =>
    "Filter: " ++ (built.node.map Node.phrase).getD "(none)" ++ "\n"
  | .error _ => ""

/-- What is said of the outcome of a filter. -/
def report (config : Config) (format : Format) :
    Except CatalogError Outcome → Response
  | .error error => { failure := some (.catalog error) }
  | .ok (.rejected errors) => { failure := some (.rejected errors) }
  | .ok (.filtered songs criteria) =>
    let printed := printSongs config format songs
    { printed with
      note := criteria.repr ++ " criteria, " ++ songs.length.repr ++
        " matching songs\n" ++ printed.note }
  | .ok (.unfiltered songs) =>
    let printed := printSongs config format songs
    { printed with note := "No criteria given; showing all songs\n" ++
      printed.note }

/-! ## Commands -/

/-- Makes the song table, or says that there is one. -/
def init : Action Response := do
  let catalog ← get
  let _ ← ofCatalog catalog.config
  if catalog.isInitialized then
    pure (printLine ("Catalog already initialized at " ++ catalog.root))
  else
    .request .create
    pure (printLine ("Catalog initialized at " ++ catalog.root))

/-- Adds the songs of a file, all of them or none. -/
def importFile (around : Surroundings) (path : String) (quiet : Bool) :
    Action Response := do
  let _ ← .find opened
  let songs ← songsOf around path
  let count ← .request (.connect (.addAll songs))
  pure (if quiet then {} else printLine ("Imported " ++ count.repr ++ " songs"))

/-- Adds one song and prints the id it was given. -/
def add (around : Surroundings) (title album artist : String) (track : Int64)
    (time : Option String) : Action Response := do
  let _ ← .find opened
  let seconds ← secondsOf time
  let id := around.freshId 0
  let song : Song := {
    id, title, album, artist, track
    time := seconds
    playCount := 0
    dateAdded := around.now
    lastQueued := none
    visible := true }
  .request (.connect (.add song))
  pure (printLine id.text)

/-- Prints every song. -/
def list (catalog : Catalog) (format : Format) : Attempt Response := do
  let (config, table) ← opened catalog
  pure (printSongsOr "No songs in the catalog yet." config format table.listed)

/-- Filters songs by criteria and prints those that pass. The configuration
says where the filter begins, if nothing else does. -/
def filter (around : Surroundings) (catalog : Catalog) (criteria : List String)
    (query address : Option String) (explain : Bool) (format : Format) :
    Attempt Response := do
  let form ← criteriaForm criteria query
  let (config, _) ← opened catalog
  let address := address.getD config.filterPrefix
  let response := report config format (catalog.filter form address around.now)
  let explained :=
    if explain then explanation form address around.now.date else ""
  pure { response with note := explained ++ response.note }

/-- Searches for words and prints the songs that have them. -/
def search (catalog : Catalog) (words : List String) (format : Format) :
    Attempt Response := do
  let (config, _) ← opened catalog
  let songs ← ofCatalog (catalog.search (" ".intercalate words))
  pure (printSongsOr "No matching songs." config format songs)

/-- Prints one song. -/
def details (catalog : Catalog) (id : String) : Attempt Response := do
  let (_, table) ← opened catalog
  let id ← idOf id
  match table.get? id with
  | some song => pure { out := detailsText song }
  | none => throw (.catalog (.songNotFound id))

/-- Shows or hides a song. -/
def setVisible (id : String) (visible : Bool) : Action Response := do
  let _ ← .find opened
  let id ← idOf id
  .request (.connect (.change (·.setVisible id visible)))
  pure {}

/-- Notes that a song was queued just now. -/
def queued (around : Surroundings) (id : String) : Action Response := do
  let _ ← .find opened
  let id ← idOf id
  .request (.connect (.change (·.markQueued id around.now)))
  pure {}

/-- What a command does and says. -/
def Command.action (around : Surroundings) : Command → Action Response
  | .init => Cli.init
  | .importFile path quiet => Cli.importFile around path quiet
  | .add title album artist track time =>
    Cli.add around title album artist track time
  | .list format => .find fun catalog => Cli.list catalog format
  | .filter criteria query address explain format =>
    .find fun catalog =>
      Cli.filter around catalog criteria query address explain format
  | .search words format => .find fun catalog => Cli.search catalog words format
  | .details id => .find fun catalog => Cli.details catalog id
  | .setVisible id visible => Cli.setVisible id visible
  | .queued id => Cli.queued around id

/-- Carries out a command: what it says, and the catalog after it. -/
def Command.run (around : Surroundings) (catalog : Catalog)
    (command : Command) : Response × Catalog :=
  match (command.action around).on catalog with
  | (.ok response, after) => (response, after)
  | (.error failure, after) => ({ failure := some failure }, after)

end Songbook.Cli
