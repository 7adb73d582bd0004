/-!
# TOML documents

The values of a configuration file and the tables that hold them. A table may
be written in several places, but only in some ways: a header names a table
once, a dotted key adds to a table that dotted keys began, and what stands
between braces is finished. So a table remembers how it came to be, and adding
to it asks for that.
-/

namespace Songbook.Toml

/-- How a table came to be. -/
inductive Origin
  /-- By a header of its own; also the document. -/
  | header
  /-- On the way to a header further in. -/
  | implied
  /-- By a dotted key. -/
  | dotted
  /-- Between braces. -/
  | braces
deriving DecidableEq

/-- A value. Numbers with a fraction or an exponent, and dates and times, are
kept as written. -/
inductive Value
  | string (text : String)
  | integer (n : Int64)
  | boolean (b : Bool)
  | float (numeral : String)
  | dateTime (numeral : String)
  | array (items : List Value)
  | table (origin : Origin) (entries : List (String × Value))
  /-- The tables of an array that headers in double brackets write. -/
  | tables (elements : List (List (String × Value)))

/-- The entries of a table, in the order in which they were written. -/
abbrev Entries := List (String × Value)

/-- Puts a value under a key, in place of the one that is there. -/
def Entries.replace (entries : Entries) (key : String) (value : Value) :
    Entries :=
  entries.map fun entry => if entry.1 = key then (key, value) else entry

/-- Whether a key that goes on behind a dot may enter a table that came to be
in this way. A header goes anywhere but between braces, a dotted key only
where nothing but longer keys has been. -/
def Origin.opensTo (origin : Origin) (dotted : Bool) : Bool :=
  match origin with
  | header => !dotted
  | implied => true
  | .dotted => true
  | braces => false

/-- Goes down a path of keys and changes the table at its end, told how that
came to be. Tables that are missing on the way are made; of an array of tables
the last is entered. -/
def Entries.changeAt (dotted : Bool)
    (change : Origin → Entries → Option Entries) :
    List String → Origin → Entries → Option Entries
  | [], origin, entries => change origin entries
  | key :: path, _, entries =>
    match entries.lookup key with
    | none => do
      let made := if dotted then .dotted else .implied
      let inner ← changeAt dotted change path made []
      some (entries ++ [(key, .table made inner)])
    | some (.table origin inner) =>
      if origin.opensTo dotted then do
        let inner ← changeAt dotted change path origin inner
        some (entries.replace key (.table origin inner))
      else none
    | some (.tables elements) => do
      let last ← elements.getLast?
      let inner ← changeAt dotted change path .header last
      some (entries.replace key (.tables (elements.dropLast ++ [inner])))
    | some _ => none

/-- Puts a value under a dotted key, given as the keys before the last and the
last. The last must be new, and a table reached by dots must be one that dots
began. -/
def Entries.setDotted (path : List String) (key : String) (value : Value)
    (origin : Origin) (entries : Entries) : Option Entries :=
  changeAt true (fun reached inner =>
    if (path.isEmpty || reached = .dotted) && (inner.lookup key).isNone then
      some (inner ++ [(key, value)])
    else none) path origin entries

/-- Opens the table of a header. It may be there only as one that longer
headers implied. -/
def Entries.openTable (path : List String) (key : String) (entries : Entries) :
    Option Entries :=
  changeAt false (fun _ inner =>
    match inner.lookup key with
    | none => some (inner ++ [(key, .table .header [])])
    | some (.table .implied sub) =>
      some (inner.replace key (.table .header sub))
    | some _ => none) path .header entries

/-- Opens one more table of the array that a header in double brackets names,
which is made if it is not there. -/
def Entries.pushTable (path : List String) (key : String) (entries : Entries) :
    Option Entries :=
  changeAt false (fun _ inner =>
    match inner.lookup key with
    | none => some (inner ++ [(key, .tables [[]])])
    | some (.tables elements) =>
      some (inner.replace key (.tables (elements ++ [[]])))
    | some _ => none) path .header entries

/-- Puts a value under a dotted key of the table that a header opened. -/
def Entries.setUnder (header path : List String) (key : String) (value : Value)
    (entries : Entries) : Option Entries :=
  changeAt false (fun origin inner => inner.setDotted path key value origin)
    header .header entries

end Songbook.Toml
