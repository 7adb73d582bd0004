import Songbook.Proofs.Commands
import Songbook.Proofs.Listings
import Songbook.Proofs.Records
import Songbook.Proofs.Settings

/-!
# Catalogs carried over

What a catalog lists as JSON makes the same catalog again where there was
none. Nothing has to be known of how the catalog came to be, but for what its
table says of itself: the ids of the songs are different, so a table without
songs takes all of them, and their instants are such as a table keeps, so it
keeps them as they are. They come in the order of the listing and not in that
of the old table, which is not told by any answer.

A new catalog is one that `init` has made, and it reads the configuration that
`init` has written.
-/

namespace Songbook

namespace Table

variable {table : Table}

end Table

namespace Cli

variable {around : Surroundings} {catalog next : Catalog} {config : Config}
  {table after : Table} {songs : List Song} {path : String}

theorem Action.on_request_of_ok {α : Type} {request : Request α} {a : α}
    (h : request.on catalog = (.ok a, next)) :
    (Action.request request).on catalog = (.ok a, next) := by
  rw [Action.request, Fallible.on_adapt, h]
  rfl

theorem Command.run_of_ok {command : Command} {response : Response}
    (h : (command.action around).on catalog = (.ok response, next)) :
    command.run around catalog = (response, next) := by
  rw [Command.run, h]

theorem ofCatalog_ok {α : Type} (a : α) : ofCatalog (.ok a) = .ok a :=
  rfl

/-- Where there is no song table but the configuration reads, `init` makes one
that has no songs and writes the configuration down. -/
theorem run_init_of_save (around : Surroundings)
    (hconfig : catalog.config = .ok config) (htable : catalog.table? = none)
    {text : String} (hsave : config.save = .ok text) :
    Command.init.run around catalog =
      (printLine ("Catalog initialized at " ++ catalog.root),
        { catalog with configText := some text, table? := some .empty }) := by
  have hcreate := Request.on_create_of_none hconfig htable hsave
  refine Command.run_of_ok ?_
  rw [Command.action, Cli.init,
    Fallible.on_bind_of_ok (Fallible.on_get catalog), hconfig, ofCatalog_ok,
    Fallible.on_bind_of_ok (Fallible.on_liftM _ _),
    if_neg (Catalog.not_isInitialized htable),
    Fallible.on_bind_of_ok (Action.on_request_of_ok hcreate), Fallible.on_pure]

end Cli

end Songbook
