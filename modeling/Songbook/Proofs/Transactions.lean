import Songbook.Catalog.Connection

/-!
# Transactions

Songs that are added in one transaction are all added or none is. What stands
between is a table with some of them: each statement puts its song into it,
and the first that fails leaves behind what those before it did. So the
statements are followed with the table to go back to kept beside, which none
of them touches, and the rollback is what makes the difference.

Whether songs can be added is told without adding any: they differ in their
ids among each other and from the songs that are there, and their timestamps
can be kept.
-/

namespace Songbook

/-! ## Adding songs to a table -/

namespace Table

/-- Whether a table takes all of the songs. -/
def Admits (table : Table) (songs : List Song) : Prop :=
  (songs.map Song.id).Nodup ∧
    ∀ song ∈ songs, song.IsStorable ∧ song.id ∉ table.songs.map Song.id

instance (table : Table) (songs : List Song) : Decidable (table.Admits songs) :=
  inferInstanceAs (Decidable (_ ∧ _))

variable {table next after : Table} {song : Song} {songs : List Song}
  {error : CatalogError}

theorem songs_of_add (h : table.add song = .ok after) :
    after.songs = table.songs ++ [song.truncateToMicros] := by
  unfold add at h
  split at h <;> cases h
  rfl

theorem add_eq_ok_iff :
    (∃ after, table.add song = .ok after) ↔
      song.IsStorable ∧ song.id ∉ table.songs.map Song.id := by
  unfold add
  split
  · next h => exact ⟨fun _ => h, fun _ => ⟨_, rfl⟩⟩
  · next h =>
    constructor
    · rintro ⟨_, hok⟩
      cases hok
    · exact fun hok => absurd hok h

theorem error_of_add (h : table.add song = .error error) :
    error = .database := by
  unfold add at h
  split at h <;> cases h
  rfl

theorem addAll_cons_of_ok (h : table.add song = .ok next) :
    table.addAll (song :: songs) = next.addAll songs := by
  rw [addAll, List.foldlM_cons, h]
  rfl

theorem addAll_cons_of_error (h : table.add song = .error error) :
    table.addAll (song :: songs) = .error error := by
  rw [addAll, List.foldlM_cons, h]
  rfl

theorem exists_add_of_addAll_cons
    (h : table.addAll (song :: songs) = .ok after) :
    ∃ next, table.add song = .ok next ∧ next.addAll songs = .ok after := by
  cases hsong : table.add song with
  | ok next => exact ⟨next, rfl, addAll_cons_of_ok hsong ▸ h⟩
  | error e =>
    rw [addAll_cons_of_error hsong] at h
    cases h

theorem songs_of_addAll (h : table.addAll songs = .ok after) :
    after.songs = table.songs ++ songs.map Song.truncateToMicros := by
  induction songs generalizing table with
  | nil =>
    cases h
    exact (List.append_nil _).symm
  | cons song songs ih =>
    obtain ⟨next, hsong, hrest⟩ := exists_add_of_addAll_cons h
    rw [ih hrest, songs_of_add hsong, List.append_assoc]
    rfl

/-- A table takes songs when it takes the first, and then takes the others. -/
theorem admits_cons_iff (h : table.add song = .ok next) :
    table.Admits (song :: songs) ↔ next.Admits songs := by
  have hsong := add_eq_ok_iff.1 ⟨next, h⟩
  have hids : next.songs.map Song.id =
      table.songs.map Song.id ++ [song.id] := by
    rw [songs_of_add h, List.map_append]
    rfl
  -- That the first song is none of the others is asked of the list before, of
  -- the table after.
  rw [Admits, Admits, hids, List.map_cons, List.nodup_cons]
  constructor
  · rintro ⟨⟨hnew, hnodup⟩, hall⟩
    refine ⟨hnodup, fun other hother => ?_⟩
    obtain ⟨hstorable, hother'⟩ := hall other (List.mem_cons_of_mem _ hother)
    refine ⟨hstorable, fun hmem => ?_⟩
    rcases List.mem_append.1 hmem with hmem | hmem
    · exact hother' hmem
    · exact hnew (List.mem_singleton.1 hmem ▸ List.mem_map_of_mem hother)
  · rintro ⟨hnodup, hall⟩
    refine ⟨⟨fun hmem => ?_, hnodup⟩, fun other hother => ?_⟩
    · obtain ⟨other, hother, hid⟩ := List.mem_map.1 hmem
      exact (hall other hother).2
        (List.mem_append_right _ (List.mem_singleton.2 hid))
    · rcases List.mem_cons.1 hother with rfl | hother
      · exact hsong
      · obtain ⟨hstorable, hnew⟩ := hall other hother
        exact ⟨hstorable, fun hmem => hnew (List.mem_append_left _ hmem)⟩

/-- Songs are added, one after the other, when the table takes all of them. -/
theorem addAll_eq_ok_iff :
    (∃ after, table.addAll songs = .ok after) ↔ table.Admits songs := by
  induction songs generalizing table with
  | nil =>
    have hnone : table.Admits [] :=
      ⟨List.nodup_nil, fun _ h => absurd h List.not_mem_nil⟩
    exact ⟨fun _ => hnone, fun _ => ⟨table, rfl⟩⟩
  | cons song songs ih =>
    cases hsong : table.add song with
    | ok next => rw [addAll_cons_of_ok hsong, ih, admits_cons_iff hsong]
    | error e =>
      rw [addAll_cons_of_error hsong]
      constructor
      · rintro ⟨_, h⟩
        cases h
      · intro h
        obtain ⟨after, hok⟩ := add_eq_ok_iff.2 (h.2 song List.mem_cons_self)
        rw [hsong] at hok
        cases hok

theorem error_of_addAll (h : table.addAll songs = .error error) :
    error = .database := by
  induction songs generalizing table with
  | nil => cases h
  | cons song songs ih =>
    cases hsong : table.add song with
    | ok next => exact ih (addAll_cons_of_ok hsong ▸ h)
    | error e =>
      rw [addAll_cons_of_error hsong] at h
      cases h
      exact error_of_add hsong

end Table

/-! ## Adding songs on a connection -/

namespace Exchange

variable {f : Table → Except CatalogError Table} {connection : Connection}
  {table after : Table} {songs : List Song} {error : CatalogError}

theorem on_change_of_ok (h : f connection.table = .ok after) :
    (change f).on connection =
      (.ok (), { connection with table := after }) := by
  -- `f` meets one table only, so it may as well not look at it.
  show (change fun _ => f connection.table).on connection = _
  rw [h]
  rfl

theorem on_change_of_error (h : f connection.table = .error error) :
    (change f).on connection = (.error error, connection) := by
  show (change fun _ => f connection.table).on connection = _
  rw [h]
  rfl

theorem on_add_of_ok {song : Song} (saved : Option Table)
    (h : table.add song = .ok after) :
    (add song).on ⟨table, saved⟩ = (.ok (), ⟨after, saved⟩) :=
  on_change_of_ok h

theorem on_add_of_error {song : Song} (saved : Option Table)
    (h : table.add song = .error error) :
    (add song).on ⟨table, saved⟩ = (.error error, ⟨table, saved⟩) :=
  on_change_of_error h

theorem on_beginTransaction (table : Table) :
    beginTransaction.on (.ofTable table) = (.ok (), ⟨table, some table⟩) := rfl

theorem on_commit (table saved : Table) :
    commit.on ⟨table, some saved⟩ = (.ok (), .ofTable table) := rfl

theorem on_rollback (table saved : Table) :
    rollback.on ⟨table, some saved⟩ = (.ok (), .ofTable saved) := rfl

theorem forM_add_cons (song : Song) (songs : List Song) :
    (song :: songs).forM add = add song >>= fun _ => songs.forM add := rfl

/-- Statements that add songs make of the table what adding the songs makes of
it. -/
theorem on_forM_add_of_ok (saved : Option Table)
    (h : table.addAll songs = .ok after) :
    (songs.forM add).on ⟨table, saved⟩ = (.ok (), ⟨after, saved⟩) := by
  induction songs generalizing table with
  | nil =>
    cases h
    rfl
  | cons song songs ih =>
    obtain ⟨next, hsong, hrest⟩ := Table.exists_add_of_addAll_cons h
    rw [forM_add_cons, Fallible.on_bind_of_ok (on_add_of_ok saved hsong)]
    exact ih hrest

/-- When one of the statements fails, the songs before it are in the table,
and the table to go back to is the same. -/
theorem on_forM_add_of_error (saved : Option Table)
    (h : table.addAll songs = .error error) :
    ∃ between, (songs.forM add).on ⟨table, saved⟩ =
      (.error error, ⟨between, saved⟩) := by
  induction songs generalizing table with
  | nil => cases h
  | cons song songs ih =>
    cases hsong : table.add song with
    | error e =>
      rw [Table.addAll_cons_of_error hsong] at h
      cases h
      rw [forM_add_cons,
        Fallible.on_bind_of_error (on_add_of_error saved hsong)]
      exact ⟨table, rfl⟩
    | ok next =>
      rw [Table.addAll_cons_of_ok hsong] at h
      rw [forM_add_cons, Fallible.on_bind_of_ok (on_add_of_ok saved hsong)]
      exact ih h

theorem on_addAll_of_ok (h : table.addAll songs = .ok after) :
    (addAll songs).on (.ofTable table) =
      (.ok songs.length, .ofTable after) := by
  rw [addAll, Fallible.on_bind_of_ok (on_beginTransaction table),
    Fallible.on_bind_of_ok
      (Fallible.on_tryCatch_of_ok (on_forM_add_of_ok (some table) h)),
    Fallible.on_bind_of_ok (on_commit after table), Fallible.on_pure]

/-- Unless the table takes all of the songs, it is after the transaction what
it was before. -/
theorem on_addAll_of_error (h : table.addAll songs = .error error) :
    (addAll songs).on (.ofTable table) = (.error error, .ofTable table) := by
  obtain ⟨between, hadd⟩ := on_forM_add_of_error (some table) h
  have hback : (tryCatch rollback fun _ => pure ()).on ⟨between, some table⟩ =
      (.ok (), .ofTable table) :=
    Fallible.on_tryCatch_of_ok (on_rollback between table)
  rw [addAll, Fallible.on_bind_of_ok (on_beginTransaction table)]
  -- The error is thrown again once all is undone, so the transaction is not
  -- committed.
  refine Fallible.on_bind_of_error ?_
  rw [Fallible.on_tryCatch_of_error hadd, Fallible.on_bind_of_ok hback,
    Fallible.on_throw]

end Exchange

end Songbook
