import Songbook.Cli.Arguments
import Songbook.Text.Decimal

/-!
# Commands

What the program can be asked to do, and which words ask for it. Words that
ask for nothing the program does are refused before anything is done.
-/

namespace Songbook.Cli

/-- How songs are printed. -/
inductive Format
  | table
  | json
  | titles
deriving DecidableEq

/-- The format of a name. -/
def Format.ofName? : String → Option Format
  | "table" => some .table
  | "json" => some .json
  | "titles" => some .titles
  | _ => none

/-- What the program is asked to do. -/
inductive Command
  | init
  /-- Adds the songs that a file holds. -/
  | importFile (path : String) (quiet : Bool)
  | add (title album artist : String) (track : Int64) (time : Option String)
  | list (format : Format)
  | filter (criteria : List String) (query address : Option String)
      (explain : Bool) (format : Format)
  | search (query : List String) (format : Format)
  | details (id : String)
  | setVisible (id : String) (visible : Bool)
  | queued (id : String)
deriving DecidableEq

namespace Command

/-! ## Options -/

/-- Not to say how many songs were imported. -/
def quiet : Switch := ⟨'q', "quiet", false⟩

/-- The album of a song to add. -/
def album : Switch := ⟨'a', "album", true⟩

/-- The artist of a song to add. -/
def artist : Switch := ⟨'r', "artist", true⟩

/-- The track of a song to add. -/
def track : Switch := ⟨'n', "track", true⟩

/-- The duration of a song to add. -/
def time : Switch := ⟨'t', "time", true⟩

/-- How songs are to be printed. -/
def format : Switch := ⟨'f', "format", true⟩

/-- A form as a query string. -/
def query : Switch := ⟨'Q', "query", true⟩

/-- The address at which a filter begins. -/
def address : Switch := ⟨'p', "prefix", true⟩

/-- To say what the filter was read as. -/
def explain : Switch := ⟨'e', "explain", false⟩

/-! ## Reading -/

/-- Refuses operands. -/
def noOperand (arguments : Arguments) : Except Stop Unit :=
  if arguments.operands.isEmpty then .ok () else .error .misuse

/-- The operand that has to be there, alone. -/
def oneOperand (arguments : Arguments) : Except Stop String :=
  match arguments.operands with
  | [operand] => .ok operand
  | _ => .error .misuse

/-- The track that arguments give, 0 when they give none. -/
def trackOf (arguments : Arguments) : Except Stop Int64 :=
  match arguments.value? track with
  | none => .ok 0
  | some value =>
    match (Text.signed? value.toList).bind Text.fit? with
    | some n => .ok n
    | none => .error .misuse

/-- The format that arguments give, a table when they give none. -/
def formatOf (arguments : Arguments) : Except Stop Format :=
  match arguments.value? format with
  | none => .ok .table
  | some value =>
    match Format.ofName? value with
    | some format => .ok format
    | none => .error .misuse

/-- The word for an id that commands on one song take. -/
def idOf (words : List String) : Except Stop String := do
  oneOperand (← Arguments.ofWords [] words)

/-- The names of the commands, of which help may be asked. -/
def names : List String :=
  ["init", "import", "add", "list", "ls", "filter", "f", "search", "s", "show",
    "hide", "unhide", "queued", "help"]

/-- The command that words ask for: its name first, then its arguments. Help
may be asked for with the name of a command behind it. -/
def ofWords : List String → Except Stop Command
  | "init" :: words => do
    noOperand (← Arguments.ofWords [] words)
    pure .init
  | "import" :: words => do
    let arguments ← Arguments.ofWords [quiet] words
    pure (.importFile (← oneOperand arguments) (arguments.has quiet))
  | "add" :: words => do
    let arguments ← Arguments.ofWords [album, artist, track, time] words
    pure (.add (← oneOperand arguments) ((arguments.value? album).getD "")
      ((arguments.value? artist).getD "") (← trackOf arguments)
        (arguments.value? time))
  | "list" :: words => list words
  | "ls" :: words => list words
  | "filter" :: words => filter words
  | "f" :: words => filter words
  | "search" :: words => search words
  | "s" :: words => search words
  | "show" :: words => return .details (← idOf words)
  | "hide" :: words => return .setVisible (← idOf words) false
  | "unhide" :: words => return .setVisible (← idOf words) true
  | "queued" :: words => return .queued (← idOf words)
  | ["help"] => .error .help
  | ["help", name] => .error (if name ∈ names then .help else .misuse)
  | word :: _ => .error (if word ∈ ["-h", "--help", "-V", "--version"]
    then .help else .misuse)
  | [] => .error .misuse
where
  list (words : List String) : Except Stop Command := do
    let arguments ← Arguments.ofWords [format] words
    noOperand arguments
    pure (.list (← formatOf arguments))
  filter (words : List String) : Except Stop Command := do
    let arguments ← Arguments.ofWords [query, address, explain, format] words
    pure (.filter arguments.operands (arguments.value? query)
      (arguments.value? address)
      (arguments.has explain) (← formatOf arguments))
  search (words : List String) : Except Stop Command := do
    let arguments ← Arguments.ofWords [format] words
    pure (.search arguments.operands (← formatOf arguments))

end Command

end Songbook.Cli
