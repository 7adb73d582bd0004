import Songbook.Catalog.Error
import Songbook.Toml.Printer
import Songbook.Toml.Reader

/-!
# Configuration

A catalog lives in a directory, its root, and may be told two things there in
a file: at which address of a form a filter begins when nothing else is said,
and how many songs are printed at most. Without a file neither is set. The
file also names the root, which it has to, but the directory in which the file
was found counts.

Paths are texts. A directory whose name is no Unicode text lies outside of
what is said here: its configuration could not be written as text, while of
one that was loaded `exists_save_of_load` says that it can.
-/

namespace Songbook

/-! ## Paths -/

/-- Whether a path does not depend on where it is read. -/
def isAbsolutePath (path : String) : Bool :=
  path.toList.head? = some '/'

/-- Goes on from a path by a relative one, with one slash between them, and
none after the empty path. An absolute path is taken as it is. -/
def joinPath (base path : String) : String :=
  if isAbsolutePath path then path
  else if base.isEmpty || base.toList.getLast? = some '/' then base ++ path
  else base ++ "/" ++ path

/-- What the environment says about where files are kept, as far as it is
Unicode text. -/
structure Environment where
  /-- The root that was asked for. -/
  chosenRoot : Option String
  /-- Where programs keep their data, if that was asked for. -/
  dataHome : Option String
  /-- The home directory. -/
  home : Option String

/-- The root: the one asked for, else a directory for this program where
programs keep their data, if that is absolute, else the same in the usual
place under the home directory. -/
def Environment.root? (environment : Environment) : Option String :=
  match environment.chosenRoot with
  | some root => some root
  | none =>
    match environment.dataHome.filter isAbsolutePath with
    | some dataHome => some (joinPath dataHome "jukebox")
    | none =>
      environment.home.map fun home =>
        joinPath (joinPath home ".local/share") "jukebox"

/-! ## Settings -/

/-- What a catalog is told. -/
structure Config where
  /-- The directory in which the catalog lives, its path a Unicode text. -/
  root : String
  /-- The address at which a filter begins when no other is named. -/
  filterPrefix : String
  /-- How many songs are printed at most, if there is a limit. -/
  resultLimit : Option Nat
deriving DecidableEq

namespace Config

/-- The address at which a filter begins when nothing was said. -/
def defaultFilterPrefix : String := "k"

/-- The configuration of a root that has no file. -/
def ofRoot (root : String) : Config :=
  ⟨root, defaultFilterPrefix, none⟩

/-- Where a root keeps its configuration file. -/
def filePath (config : Config) : String :=
  joinPath config.root "config.toml"

/-- The directory of a root for its song table. -/
def databaseDirectory (config : Config) : String :=
  joinPath config.root "db"

/-- Where a root keeps its song table. -/
def databasePath (config : Config) : String :=
  joinPath config.root "db/catalog.duckdb"

/-! ## Reading the file -/

/-- The text that a value is, if it is one. -/
def text? : Toml.Value → Option String
  | .string text => some text
  | _ => none

/-- The limit that a value is: an integer that is not negative. -/
def limit? : Toml.Value → Option Nat
  | .integer n => n.toInt.toNat?
  | _ => none

/-- Reads a setting, if it is there. -/
def setting? {α : Type} (read : Toml.Value → Option α) (entries : Toml.Entries)
    (name : String) : Option (Option α) :=
  match entries.lookup name with
  | none => some none
  | some value => (read value).map some

/-- The configuration of a root in the text of its file. The file has to name
a root, whichever; other settings than the three may stand there. -/
def ofText? (root text : String) : Option Config := do
  let entries ← Toml.ofText? text
  let _ ← (← setting? text? entries "root")
  let filterPrefix ← setting? text? entries "filter_prefix"
  let resultLimit ← setting? limit? entries "result_limit"
  some ⟨root, filterPrefix.getD defaultFilterPrefix, resultLimit⟩

/-- The configuration of a root, from the text of its file if it has one. -/
def load (root : String) : Option String → Except CatalogError Config
  | none => .ok (ofRoot root)
  | some text =>
    match ofText? root text with
    | some config => .ok config
    | none => .error .config

/-! ## Writing the file -/

/-- The greatest limit that a file can say, as its integers have 64 bits. -/
def greatestLimit : Nat := 9223372036854775807

/-- The line that says a text. -/
def textLine (name text : String) : List Char :=
  Toml.line name (Toml.quote text.toList)

/-- The line of the limit, if there is one. -/
def limitLine : Option Nat → List Char
  | none => []
  | some n => Toml.line "result_limit" (Nat.toDigits 10 n)

/-- The text to save. A limit too great for the file is an error. -/
def save (config : Config) : Except CatalogError String :=
  if config.resultLimit.all (· ≤ greatestLimit) then
    .ok <| String.ofList <| textLine "root" config.root ++
      textLine "filter_prefix" config.filterPrefix ++
        limitLine config.resultLimit
  else .error .config

/-! ## Writing what was read -/

theorem limit?_le {value : Toml.Value} {n : Nat} (h : limit? value = some n) :
    n ≤ greatestLimit := by
  cases value with
  | integer i =>
    have hi : i.toInt = n := Int.mem_toNat?.1 h
    have := Int64.toInt_le i
    have hmax : Int64.maxValue.toInt = greatestLimit := rfl
    omega
  | _ => cases h

theorem exists_of_setting?_eq_some {α : Type} {read : Toml.Value → Option α}
    {entries : Toml.Entries} {name : String} {a : α}
    (h : setting? read entries name = some (some a)) :
    ∃ value, read value = some a := by
  unfold setting? at h
  split at h
  · cases h
  · next value _ =>
    obtain ⟨b, hb, heq⟩ := Option.map_eq_some_iff.1 h
    exact ⟨value, hb.trans heq⟩

theorem limit_le_of_load {root : String} {file : Option String}
    {config : Config} (h : load root file = .ok config) {n : Nat}
    (hn : config.resultLimit = some n) :
    n ≤ greatestLimit := by
  cases file with
  | none =>
    cases h
    cases hn
  | some text =>
    simp only [load] at h
    split at h
    · next read hread =>
      cases h
      simp only [ofText?, Option.bind_eq_bind, Option.bind_eq_some_iff] at hread
      obtain ⟨_, -, _, -, _, -, _, -, limit, hlimit, heq⟩ := hread
      cases heq
      cases hn
      obtain ⟨value, hvalue⟩ := exists_of_setting?_eq_some hlimit
      exact limit?_le hvalue
    · cases h

/-- A configuration that was loaded can be saved. -/
theorem exists_save_of_load {root : String} {file : Option String}
    {config : Config} (h : load root file = .ok config) :
    ∃ text, config.save = .ok text := by
  have hlimit : config.resultLimit.all (· ≤ greatestLimit) = true := by
    cases hn : config.resultLimit with
    | none => rfl
    | some n => exact decide_eq_true (limit_le_of_load h hn)
  exact ⟨_, if_pos hlimit⟩

end Config

end Songbook
