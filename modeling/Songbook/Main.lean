import Songbook.Catalog.Text
import Songbook.Cli.Run
import Std.Time.DateTime.Timestamp

/-!
# The program

Reads the files of the catalog, the clock and what the command asks for,
carries the command out, writes the files that changed and says how it went.

Three things that a program meets are left out of all that is said of
commands. No log is kept of what they do, so there are no lines of one among
what they say. An output that cannot be written ends the program from outside
of any command. And paths that are no Unicode text are none here.
-/

namespace Songbook.Cli

/-- What is printed when words ask for help or for nothing that the program
does. -/
def usage : String :=
  "Usage: songbook <COMMAND>\n\n" ++
  "Commands:\n" ++
  "  init\n" ++
  "  import [-q] <FILE>\n" ++
  "  add [-a ALBUM] [-r ARTIST] [-n TRACK] [-t TIME] <TITLE>\n" ++
  "  list [-f table|json|titles]\n" ++
  "  filter [-Q QUERY] [-p PREFIX] [-e] [-f table|json|titles] [KEY=VALUE]...\n" ++
  "  search [-f table|json|titles] [WORD]...\n" ++
  "  show <ID>\n" ++
  "  hide <ID>\n" ++
  "  unhide <ID>\n" ++
  "  queued <ID>\n"

/-- What is said behind the message of an error that arises outside of the
catalog. -/
def detail : CatalogError → String
  | .io => "the file cannot be read\n"
  | .database => "the song table does not take the record\n"
  | .json => "the text is not a list of song records\n"
  | .config => "the configuration cannot be read or written\n"
  | _ => ""

/-- The text of a file, if there is such a file. -/
def readIfThere (path : String) : IO (Option String) := do
  match ← (IO.FS.readFile path).toBaseIO with
  | .ok text => pure (some text)
  | .error (.noFileOrDirectory ..) => pure none
  | .error e => throw e

/-- The text of the file that a command imports, if it can be read. -/
def importedText (command : Command) : IO (Option String) := do
  match command with
  | .importFile path _ =>
    match ← (IO.FS.readFile path).toBaseIO with
    | .ok text => pure (some text)
    | .error _ => pure none
  | _ => pure none

/-- The present, in nanoseconds since 1970. -/
def clockNanos : IO Int := do
  return (← Std.Time.Timestamp.now).toNanosecondsSinceUnixEpoch.val

/-- A number below 2 ^ 72 that cannot be foreseen. -/
def randomNumber : IO Nat := do
  return (← IO.getRandomBytes 9).foldl (fun n byte => n * 256 + byte.toNat) 0

/-- What a command finds around it when the program runs. New ids begin with
the time, and go on from one random number. -/
def lookAround (command : Command) : IO Surroundings := do
  let nanos ← clockNanos
  let seed ← randomNumber
  let imported ← importedText command
  return {
    fileText := fun _ => imported
    now :=
      (Instant.of? (nanos / 1000000000) (nanos % 1000000000).toNat).getD .epoch
    freshId :=
      fun index => SongId.ofTime (nanos / 1000000).toNat (seed + index) }

/-- Says what a command says and gives its exit code. -/
def tell (response : Response) : IO UInt32 := do
  IO.print response.out
  IO.eprint response.err
  if let some (.catalog error) := response.failure then
    IO.eprint (detail error)
  return response.code.toUInt32

/-- Writes a file whose text has changed; one that is not to be there is left
alone. -/
def writeIfNew (path : String) (before after : Option String) : IO Unit := do
  if let some text := after then
    unless before = after do
      IO.FS.writeFile path text

/-- Carries out a command on the catalog of a root. A song table that does not
read is an error before the command is looked at. -/
def runAt (root : String) (command : Command) : IO UInt32 := do
  let paths := Config.ofRoot root
  let configText ← readIfThere paths.filePath
  let tableText ← readIfThere paths.databasePath
  let table? := tableText.bind Table.ofText?
  if tableText.isSome && table?.isNone then
    return ← tell { failure := some (.catalog .database) }
  let (response, after) :=
    command.run (← lookAround command) ⟨root, configText, table?⟩
  if after.isInitialized then
    IO.FS.createDirAll paths.databaseDirectory
  writeIfNew paths.databasePath tableText (after.table?.map Table.text)
  writeIfNew paths.filePath configText after.configText
  tell response

/-- Carries out what the words after the program's name ask for. -/
def runWords (words : List String) : IO UInt32 := do
  match Command.ofWords words with
  | .error .help => do
    IO.print usage
    return 0
  | .error .misuse => do
    IO.eprint usage
    return 2
  | .ok command => do
    let environment : Environment := {
      chosenRoot := ← IO.getEnv "JUKEBOX_ROOT"
      dataHome := ← IO.getEnv "XDG_DATA_HOME"
      home := ← IO.getEnv "HOME" }
    match environment.root? with
    | some root => runAt root command
    | none => tell { failure := some (.catalog .config) }

end Songbook.Cli

/-- Runs the program; a file that cannot be reached ends it like any other
error. -/
def main (words : List String) : IO UInt32 := do
  try
    Songbook.Cli.runWords words
  catch e => do
    IO.eprintln ("Error: IO error: " ++ toString e)
    return 1
