import Songbook.Cli.Command
import Songbook.Song.Record

/-!
# Listings

How songs are printed: as a table with a column for each of seven fields, as
JSON records, as titles alone, or one song with all its fields.
-/

namespace Songbook.Cli

/-- A text with blanks after it until it has the width. -/
def padEnd (width : Nat) (s : List Char) : List Char :=
  s ++ List.replicate (width - s.length) ' '

/-- A text cut to the width, the cut marked by three dots. -/
def clip (width : Nat) (s : List Char) : List Char :=
  if s.length ≤ width then s else s.take (width - 3) ++ ['.', '.', '.']

/-! ## Tables -/

/-- The columns of a table row, the first four filled up on the right and the
others on the left. -/
def columns (id title artist album track time plays : String) : List Char :=
  padEnd 36 id.toList ++ ' ' :: padEnd 28 title.toList ++
    ' ' :: padEnd 24 artist.toList ++
    ' ' :: padEnd 24 album.toList ++ ' ' :: Text.padStart 5 ' ' track.toList ++
    ' ' :: Text.padStart 8 ' ' time.toList ++
      ' ' :: Text.padStart 6 ' ' plays.toList

/-- The heading of a table, a line under it. -/
def heading : List Char :=
  columns "ID" "TITLE" "ARTIST" "ALBUM" "TRACK" "TIME" "PLAYS" ++
    '\n' :: List.replicate 137 '-' ++ ['\n']

/-- A text cut to the width of a column. -/
def clipped (width : Nat) (text : String) : String :=
  String.ofList (clip width text.toList)

/-- The row of a song, which is marked when it is hidden. -/
def row (song : Song) : List Char :=
  columns song.id.text (clipped 28 song.title) (clipped 24 song.artist)
    (clipped 24 song.album)
      (Text.decimal song.track.toInt) song.timeText
        (Text.decimal song.playCount.toInt) ++
    (if song.visible then ['\n'] else " (hidden)\n".toList)

/-- A table with a heading and a row for each song. -/
def tableText (songs : List Song) : String :=
  String.ofList (heading ++ songs.flatMap row)

/-! ## Lists -/

/-- Songs as a format prints them. -/
def Format.print (songs : List Song) : Format → String
  | .table => tableText songs
  | .json => Song.printAll songs ++ "\n"
  | .titles => String.join (songs.map fun song => song.title ++ "\n")

/-- The songs that are printed when there may be a limit. -/
def withinLimit (limit : Option Nat) (songs : List Song) : List Song :=
  match limit with
  | none => songs
  | some n => songs.take n

/-- What is said when songs were left out for the limit. -/
def remainder (limit : Option Nat) (songs : List Song) : String :=
  let hidden := songs.length - (withinLimit limit songs).length
  if hidden = 0 then "" else "(" ++ hidden.repr ++ " more not shown)\n"

/-! ## One song -/

/-- All fields of a song, one a line. -/
def detailsText (song : Song) : String :=
  "ID:          " ++ song.id.text ++ "\n" ++
  "Title:       " ++ song.title ++ "\n" ++
  "Album:       " ++ song.album ++ "\n" ++
  "Artist:      " ++ song.artist ++ "\n" ++
  "Track:       " ++ Text.decimal song.track.toInt ++ "\n" ++
  "Time:        " ++ song.timeText ++ "\n" ++
  "Play count:  " ++ Text.decimal song.playCount.toInt ++ "\n" ++
  "Date added:  " ++ song.dateAdded.plainText ++ "\n" ++
  "Last queued: " ++
    (song.lastQueued.map Instant.plainText).getD "never" ++ "\n" ++
  "Visible:     " ++ (if song.visible then "true" else "false") ++ "\n"

end Songbook.Cli
