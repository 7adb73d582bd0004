import Songbook.Proofs.Steps

/-!
# Songs added together

Adding songs together succeeds when adding each of them, one step after the
other, would, and then comes to the same catalog. Otherwise no song is added,
wherever in the list the one stands that cannot be: the single steps would
have added those before it, and those behind it that can be.
-/

namespace Songbook.Catalog

variable {catalog : Catalog} {table after : Table} {songs : List Song}

theorem run_adds_of_ok (htable : catalog.table? = some table)
    (h : table.addAll songs = .ok after) :
    (catalog.run (songs.map .add)).1.AllDone ∧
      (catalog.run (songs.map .add)).2 =
        { catalog with table? := some after } := by
  induction songs generalizing catalog table with
  | nil =>
    cases h
    refine ⟨fun _ hmem => absurd hmem List.not_mem_nil, ?_⟩
    show catalog = { catalog with table? := some after }
    rw [← htable]
  | cons song songs ih =>
    obtain ⟨next, hsong, hrest⟩ := Table.exists_add_of_addAll_cons h
    have hstep : catalog.perform (.add song) = _ :=
      perform_of_ok rfl htable hsong
    have hnext : ({ catalog with table? := some next } : Catalog).table? =
        some next := rfl
    obtain ⟨hdone, hafter⟩ := ih hnext hrest
    rw [List.map_cons, run_cons _ hstep]
    exact ⟨Log.allDone_cons_iff.2 ⟨rfl, hdone⟩, hafter⟩

theorem run_adds_of_error {error : CatalogError}
    (htable : catalog.table? = some table)
    (h : table.addAll songs = .error error) :
    ¬(catalog.run (songs.map .add)).1.AllDone := by
  intro hdone
  induction songs generalizing catalog table with
  | nil => cases h
  | cons song songs ih =>
    cases hsong : table.add song with
    -- The steps after the one that fails may add songs, which does not make
    -- up for it.
    | error e =>
      have hstep : catalog.perform (.add song) = _ :=
        perform_of_error rfl htable hsong
      rw [List.map_cons, run_cons _ hstep] at hdone
      exact absurd (Log.allDone_cons_iff.1 hdone).1 Bool.noConfusion
    | ok next =>
      have hstep : catalog.perform (.add song) = _ :=
        perform_of_ok rfl htable hsong
      rw [List.map_cons, run_cons _ hstep] at hdone
      rw [Table.addAll_cons_of_ok hsong] at h
      exact ih rfl h (Log.allDone_cons_iff.1 hdone).2

/-- Songs are added together exactly when each would be added in its turn, and
exactly when the table takes them. Then their number is answered and the
catalog is the one that the single steps would leave. Otherwise the catalog is
as it was. -/
theorem addAll_agrees_with_adds (root : String) (configText : Option String)
    (table : Table) (songs : List Song) :
    let store : Catalog := ⟨root, configText, some table⟩
    let singly := store.run (songs.map .add)
    ((∃ answer, (store.perform (.addAll songs)).1 = .ok answer) ↔
      singly.1.AllDone) ∧
      (singly.1.AllDone ↔ (songs.map Song.id).Nodup ∧
        ∀ song ∈ songs, song.IsStorable ∧ song.id ∉ table.songs.map Song.id) ∧
      (singly.1.AllDone →
        store.perform (.addAll songs) = (.ok (.added songs.length), singly.2)) ∧
      (¬singly.1.AllDone →
        store.perform (.addAll songs) = (.error .database, store)) := by
  intro store singly
  have hadmits : (∃ after, table.addAll songs = .ok after) ↔
      table.Admits songs :=
    Table.addAll_eq_ok_iff
  cases hadd : table.addAll songs with
  | ok after =>
    obtain ⟨hdone, hafter⟩ : singly.1.AllDone ∧
        singly.2 = { store with table? := some after } :=
      run_adds_of_ok rfl hadd
    have hbatch : store.perform (.addAll songs) =
        (.ok (.added songs.length), singly.2) := by
      rw [hafter]
      exact perform_of_ok rfl rfl hadd
    refine ⟨⟨fun _ => hdone, fun _ => ⟨_, congrArg Prod.fst hbatch⟩⟩,
      ⟨fun _ => hadmits.1 ⟨after, hadd⟩, fun _ => hdone⟩, fun _ => hbatch,
      fun h => absurd hdone h⟩
  | error error =>
    have hfailed : ¬singly.1.AllDone := run_adds_of_error rfl hadd
    have hbatch : store.perform (.addAll songs) =
        (.error .database, store) := by
      rw [← Table.error_of_addAll hadd]
      exact perform_of_error rfl rfl hadd
    refine ⟨⟨?_, fun h => absurd h hfailed⟩, ⟨fun h => absurd h hfailed, ?_⟩,
      fun h => absurd h hfailed, fun _ => hbatch⟩
    · rintro ⟨answer, h⟩
      rw [hbatch] at h
      cases h
    · intro h
      obtain ⟨after, hok⟩ := hadmits.2 h
      rw [hadd] at hok
      cases hok

end Songbook.Catalog
