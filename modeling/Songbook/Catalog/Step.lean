import Songbook.Catalog.Basic

/-!
# Steps

The requests that can be made to a catalog, one after the other, and what they
answer. All but the first two ask for the song table before anything else.
-/

namespace Songbook

open Songbook.Filter

/-- A request to a catalog. -/
inductive Step
  | init
  | isInitialized
  /-- Asks for the configuration. -/
  | settings
  | add (song : Song)
  | addAll (songs : List Song)
  | get (id : SongId)
  | all
  | visible
  | titles
  | setVisible (id : SongId) (visible : Bool)
  | markQueued (id : SongId) (at_ : Instant)
  | filter (form : Form) (address : String) (now : Instant)
  | search (query : String)

/-- What a request answers when it succeeds. -/
inductive Answer
  | done
  | flag (b : Bool)
  | settings (config : Config)
  | added (count : Nat)
  | song (song : Option Song)
  | songs (songs : List Song)
  | titles (titles : List String)
  | outcome (outcome : Outcome)

namespace Step

/-- What a step asks of the catalog. -/
def request : Step → Request Answer
  | .init => do
    Request.create
    pure .done
  | .isInitialized =>
    .ask fun catalog => return .flag catalog.isInitialized
  | .settings =>
    .ask fun catalog => do
      let _ ← catalog.table
      return .settings (← catalog.config)
  | .add song => do
    Request.connect (.add song)
    pure .done
  | .addAll songs => do
    let count ← Request.connect (.addAll songs)
    pure (.added count)
  | .get id =>
    .ask fun catalog => return .song ((← catalog.table).get? id)
  | .all =>
    .ask fun catalog => return .songs (← catalog.table).listed
  | .visible =>
    .ask fun catalog => return .songs (← catalog.table).visible
  | .titles =>
    .ask fun catalog => return .titles ((← catalog.table).listed.map Song.title)
  | .setVisible id value => do
    Request.connect (.change (·.setVisible id value))
    pure .done
  | .markQueued id at_ => do
    Request.connect (.change (·.markQueued id at_))
    pure .done
  | .filter form address now =>
    .ask fun catalog => do
      let _ ← catalog.table
      return .outcome (← catalog.filter form address now)
  | .search query =>
    .ask fun catalog => return .songs (← catalog.search query)

end Step

namespace Catalog

/-- Takes a step: the answer or the error, and the catalog after it. -/
def perform (catalog : Catalog) (step : Step) :
    Except CatalogError Answer × Catalog :=
  step.request.on catalog

end Catalog

end Songbook
