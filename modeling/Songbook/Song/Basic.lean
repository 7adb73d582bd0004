import Songbook.Calendar.Timestamp
import Songbook.Filter.Field
import Songbook.Song.Id

/-!
# Songs

The record that the catalog keeps of a song, how its fields answer to the
names that a filter uses, how its duration is shown, and the order in which
songs are listed.
-/

namespace Songbook

/-- A song of the catalog. -/
structure Song where
  id : SongId
  title : String
  album : String
  artist : String
  /-- The place on the album, 0 when it is not known. -/
  track : Int64
  /-- The duration in seconds. -/
  time : Int64
  /-- How often the song was queued. -/
  playCount : Int64
  dateAdded : Instant
  /-- When the song was last queued, if it ever was. -/
  lastQueued : Option Instant
  /-- A song that is not visible is left out of filters and searches. -/
  visible : Bool
deriving DecidableEq

namespace Song

open Songbook.Filter

/-- The text in a field. -/
def text (song : Song) : TextField → String
  | .title => song.title
  | .album => song.album
  | .artist => song.artist

/-- The number in a field. -/
def number (song : Song) : NumberField → Int64
  | .time => song.time
  | .track => song.track
  | .playCount => song.playCount

/-- The instant in a field, if there is one. -/
def instant (song : Song) : DateField → Option Instant
  | .dateAdded => some song.dateAdded
  | .lastQueued => song.lastQueued

/-- A number in at least two places, filled with zeros after the sign. -/
def twoPlaces (n : Int) : List Char :=
  if n < 0 then '-' :: Text.digits 1 n.natAbs else Text.digits 2 n.natAbs

/-- A duration as minutes and seconds, with hours before them once there are
any. The parts are rounded toward zero, so each part of a negative duration is
negative or zero, and hours are shown only when positive. -/
def timeText (song : Song) : String :=
  let seconds := song.time.toInt
  let hours := seconds.tdiv 3600
  let minutes := (seconds.tmod 3600).tdiv 60
  let rest := seconds.tmod 60
  if 0 < hours then
    Text.decimal hours ++
      String.ofList (':' :: twoPlaces minutes ++ ':' :: twoPlaces rest)
  else Text.decimal minutes ++ String.ofList (':' :: twoPlaces rest)

/-- The order of listings: by artist, album, track and title, songs alike in
all four by their ids. Texts are ordered by code points. -/
def compareListed (a b : Song) : Ordering :=
  (compare a.artist b.artist).then <|
    (compare a.album b.album).then <|
      (compare a.track b.track).then <|
        (compare a.title b.title).then <|
          compare a.id.bits.toNat b.id.bits.toNat

/-- Whether a song does not come after another in listings. -/
def listedBefore (a b : Song) : Bool :=
  (compareListed a b).isLE

end Song

end Songbook
