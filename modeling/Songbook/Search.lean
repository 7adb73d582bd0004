import Songbook.Filter.Outcome
import Songbook.Text.Blank

/-!
# Search

Looks for words. A song is found if every word occurs, in any case, in its
title, its album or its artist; different words may occur in different fields.
A query without words finds nothing.
-/

namespace Songbook.Search

open Songbook.Filter

/-- The fields in which words are looked for. -/
def fields : List TextField :=
  [.title, .album, .artist]

/-- The test that one word occurs in one of the fields. -/
def wordPredicate (word : List Char) : Predicate :=
  .any (fields.map fun field => .ofNeedle field .contains (String.ofList word))

/-- The test that every word of a query occurs, if it has a word. -/
def predicate? (query : String) : Option Predicate :=
  match Text.words query.toList with
  | [] => none
  | words => some (.all (words.map wordPredicate))

/-- The songs that a query finds among visible songs, in their order. -/
def find (query : String) (visible : List Song) : List Song :=
  match predicate? query with
  | none => []
  | some predicate => visible.filter fun song => predicate.holds song

end Songbook.Search
