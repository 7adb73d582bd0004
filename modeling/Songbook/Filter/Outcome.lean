import Songbook.Catalog.Error
import Songbook.Filter.Build
import Songbook.Filter.Predicate

/-!
# Outcomes

What comes of a filter that runs over a catalog. A fault in the form is an
error. If an operand does not read, the errors come back and no song is looked
at. A filter without criteria gives every visible song, and any other gives
the visible songs that pass, in the order of the catalog.

The catalog is given as what asking it for its visible songs would answer, an
answer that may be an error; it counts only where songs are needed.
-/

namespace Songbook.Filter

/-- What comes of a filter. -/
inductive Outcome
  /-- The songs that pass a filter of `criteria` leaves. -/
  | filtered (songs : List Song) (criteria : Nat)
  /-- Every visible song, as nothing was asked for. -/
  | unfiltered (songs : List Song)
  /-- Operands that did not read. -/
  | rejected (errors : List OperandError)
deriving DecidableEq

/-- The songs of an outcome. -/
def Outcome.songs : Outcome → List Song
  | filtered songs _ => songs
  | unfiltered songs => songs
  | rejected _ => []

/-- The songs among `songs` that a search may show. -/
def visibleSongs (songs : List Song) : List Song :=
  songs.filter (·.visible)

/-- The visible songs that pass, in their order; all of them when there is no
criterion. -/
def Predicate.select (predicate : Predicate) (criteria : Nat)
    (visible : List Song) : List Song :=
  if criteria = 0 then visible else visible.filter fun song =>
    predicate.holds song

/-- Runs what was built. Operands that did not read come first, and then there
is no need of songs. -/
def Built.run (built : Built) (visible : Except CatalogError (List Song))
    (now : Instant) : Except CatalogError Outcome :=
  if built.isValid then
    match built.node with
    | some node =>
      if 0 < built.count then do
        let songs ← visible
        pure (.filtered
          ((node.compile now).select built.count songs) built.count)
      else .unfiltered <$> visible
    | none => .unfiltered <$> visible
  else .ok (.rejected built.errors)

/-- Reads the filter that a form holds at an address and runs it. Dates are
read as of the UTC day of `now`. -/
def run (form : Form) (address : String)
    (visible : Except CatalogError (List Song)) (now : Instant) :
    Except CatalogError Outcome :=
  match build form address now.date with
  | .error fault => .error (.malformedFilter fault)
  | .ok built => built.run visible now

end Songbook.Filter
