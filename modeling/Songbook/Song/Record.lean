import Songbook.Json.Printer
import Songbook.Json.Reader
import Songbook.Song.Basic

/-!
# Song records

The JSON form of a song. Writing gives an object with all ten fields. Reading
takes an object whose fields may come in any order and with others between
them, none of the ten twice; or an array of the fields in their order, those
at the end left off. Title, album and artist have to be there; for the other
fields there is something to put, but for two of them only the importer knows
what: an id that no other song has, and the present. A record without them is
a draft until they are filled in.
-/

namespace Songbook

/-- A song record as it is read. -/
structure Song.Draft where
  id : Option SongId
  title : String
  album : String
  artist : String
  track : Int64
  time : Int64
  playCount : Int64
  dateAdded : Option Instant
  lastQueued : Option Instant
  visible : Bool
deriving DecidableEq

namespace Song

/-- The names of the fields, in order. -/
def fieldNames : List String :=
  ["id", "title", "album", "artist", "track", "time", "play_count",
    "date_added", "last_queued", "visible"]

/-- The record of a song. -/
def toJson (song : Song) : Json :=
  .ofFields [
    ("id", .ofString song.id.text),
    ("title", .ofString song.title),
    ("album", .ofString song.album),
    ("artist", .ofString song.artist),
    ("track", .integer song.track.toInt),
    ("time", .integer song.time.toInt),
    ("play_count", .integer song.playCount.toInt),
    ("date_added", .ofString song.dateAdded.timestamp),
    ("last_queued", match song.lastQueued with
      | some t => .ofString t.timestamp
      | none => .null),
    ("visible", .bool song.visible)]

/-- The text of several records, as a file holds them and a listing prints
them. -/
def printAll (songs : List Song) : String :=
  (Json.array (songs.map toJson)).pretty

namespace Draft

/-! ## Values of fields -/

/-- The text that a value is, if it is a string that denotes one. -/
def text? : Json → Option String
  | .string text => text
  | _ => none

/-- The number that a value is, if it is an integer that fits. -/
def number? : Json → Option Int64
  | .integer n => Text.fit? n
  | _ => none

/-- The truth value that a value is, if it is one. -/
def flag? : Json → Option Bool
  | .bool b => some b
  | _ => none

/-- The instant that a value is the timestamp of. -/
def instant? (value : Json) : Option Instant :=
  (text? value).bind Instant.ofTimestamp?

/-- The id that a value is the text of. -/
def id? (value : Json) : Option SongId :=
  (text? value).bind SongId.ofText?

/-- The instant that a value holds, or that there is none. -/
def instantOrNull? : Json → Option (Option Instant)
  | .null => some none
  | value => (instant? value).map some

/-! ## Records -/

/-- Reads a field, if it is there. -/
def field? {α : Type} (read : Json → Option α) (fields : List (String × Json))
    (name : String) : Option (Option α) :=
  match fields.lookup name with
  | none => some none
  | some value => (read value).map some

/-- The draft with named fields, of which those of a record may occur once at
most. -/
def ofFields? (fields : List (String × Json)) : Option Draft :=
  if ((fields.map Prod.fst).filter fun name => fieldNames.contains name).Nodup
  then do
    let id ← field? id? fields "id"
    let title ← (← field? text? fields "title")
    let album ← (← field? text? fields "album")
    let artist ← (← field? text? fields "artist")
    let track ← field? number? fields "track"
    let time ← field? number? fields "time"
    let playCount ← field? number? fields "play_count"
    let dateAdded ← field? instant? fields "date_added"
    let lastQueued ← field? instantOrNull? fields "last_queued"
    let visible ← field? flag? fields "visible"
    some ⟨id, title, album, artist, track.getD 0, time.getD 0,
      playCount.getD 0, dateAdded, lastQueued.getD none, visible.getD true⟩
  else none

/-- The field of an object, if its key denotes a text. -/
def namedField? (field : Option String × Json) : Option (String × Json) :=
  field.1.map fun name => (name, field.2)

/-- Reads a record, as an object or as an array. -/
def ofJson? : Json → Option Draft
  | .object fields => (fields.mapM namedField?).bind ofFields?
  | .array items =>
    if items.length ≤ fieldNames.length then ofFields? (fieldNames.zip items)
    else none
  | _ => none

/-- Reads the text of one record. -/
def ofText? (text : String) : Option Draft :=
  (Json.ofText? text).bind ofJson?

/-- Reads the text of several records. -/
def listOfText? (text : String) : Option (List Draft) :=
  match Json.ofText? text with
  | some (.array items) => items.mapM ofJson?
  | _ => none

/-- Fills in an id and the present where they were left out. -/
def complete (draft : Draft) (freshId : SongId) (now : Instant) : Song where
  id := draft.id.getD freshId
  title := draft.title
  album := draft.album
  artist := draft.artist
  track := draft.track
  time := draft.time
  playCount := draft.playCount
  dateAdded := draft.dateAdded.getD now
  lastQueued := draft.lastQueued
  visible := draft.visible

end Draft

end Song

end Songbook
