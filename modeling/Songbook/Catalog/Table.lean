import Songbook.Catalog.Error
import Songbook.Song.Basic

/-!
# Song tables

The songs of a catalog, each under an id of its own. Timestamps are kept to
the microsecond, and only those that have one plain numeral: a year of no more
than four digits, and no leap second. That every song of a table is kept so
and that no two share an id is part of the type, so each operation shows it
for what it makes.

A table changes as a whole or not at all: what fails gives no table. Songs are
read in the order of listings, whatever the order in which they came.
-/

namespace Songbook

/-! ## What can be kept -/

/-- Whether a table can keep an instant, once what is finer than a microsecond
is cut off. -/
def Instant.IsStorable (t : Instant) : Prop :=
  t.date.year ≤ 9999 ∧ t.inLeapSecond = false

instance (t : Instant) : Decidable t.IsStorable :=
  inferInstanceAs (Decidable (_ ∧ _))

/-- Whether an instant is as a table keeps it: storable, and of whole
microseconds. -/
def Instant.IsStored (t : Instant) : Prop :=
  t.IsStorable ∧ t.nanos % 1000 = 0

/-- Cutting off what is finer than a microsecond makes an instant as a table
keeps it. -/
theorem Instant.IsStorable.truncated {t : Instant} (h : t.IsStorable) :
    t.truncateToMicros.IsStored := by
  have hn : ¬1000000000 ≤ t.nanos := of_decide_eq_false h.2
  refine ⟨⟨h.1, decide_eq_false ?_⟩, ?_⟩
  · show ¬1000000000 ≤ t.nanos / 1000 * 1000
    omega
  · exact Nat.mul_mod_left _ _

/-- Counted in nanoseconds, cutting an instant off rounds it down, before 1970
as well as after. -/
theorem Instant.truncateToMicros_rounds_down (t : Instant) :
    t.truncateToMicros.seconds * 1000000000 + t.truncateToMicros.nanos =
      (t.seconds * 1000000000 + t.nanos) / 1000 * 1000 := by
  show t.seconds * 1000000000 + (t.nanos / 1000 * 1000 : Nat) = _
  omega

namespace Song

/-- Whether a table can keep both timestamps of a song. -/
def IsStorable (song : Song) : Prop :=
  song.dateAdded.IsStorable ∧ ∀ t ∈ song.lastQueued, t.IsStorable

instance (song : Song) : Decidable song.IsStorable :=
  inferInstanceAs (Decidable (_ ∧ ∀ t ∈ song.lastQueued, t.IsStorable))

/-- Whether both timestamps of a song are as a table keeps them. -/
def IsStored (song : Song) : Prop :=
  song.dateAdded.IsStored ∧ ∀ t ∈ song.lastQueued, t.IsStored

/-- A song with both timestamps cut off below the microsecond. Nothing else of
it changes. -/
def truncateToMicros (song : Song) : Song :=
  { song with
    dateAdded := song.dateAdded.truncateToMicros
    lastQueued := song.lastQueued.map Instant.truncateToMicros }

/-- What is kept of a song is told by its fields: both timestamps are cut off,
and every other field is the one that was given. -/
theorem eq_truncateToMicros_iff {given kept : Song} :
    kept = given.truncateToMicros ↔
      (kept.id = given.id ∧ kept.title = given.title ∧
        kept.album = given.album ∧ kept.artist = given.artist ∧
        kept.track = given.track ∧ kept.time = given.time ∧
        kept.playCount = given.playCount ∧ kept.visible = given.visible) ∧
      kept.dateAdded = given.dateAdded.truncateToMicros ∧
      kept.lastQueued = given.lastQueued.map Instant.truncateToMicros := by
  constructor
  · rintro rfl
    exact ⟨⟨rfl, rfl, rfl, rfl, rfl, rfl, rfl, rfl⟩, rfl, rfl⟩
  · obtain ⟨id, title, album, artist, track, time, playCount, dateAdded,
        lastQueued, visible⟩ := kept
    rintro ⟨⟨rfl, rfl, rfl, rfl, rfl, rfl, rfl, rfl⟩, rfl, rfl⟩
    rfl

theorem IsStorable.truncated {song : Song} (h : song.IsStorable) :
    song.truncateToMicros.IsStored := by
  refine ⟨h.1.truncated, fun t ht => ?_⟩
  obtain ⟨u, hu, rfl⟩ := Option.map_eq_some_iff.1 ht
  exact (h.2 u hu).truncated

end Song

/-! ## Tables -/

/-- Songs under their ids. -/
structure Table where
  /-- The songs in the order in which they came. -/
  songs : List Song
  ids_nodup : (songs.map Song.id).Nodup
  isStored : ∀ song ∈ songs, song.IsStored

namespace Table

/-- The table without songs. -/
def empty : Table :=
  ⟨[], List.nodup_nil, fun _ h => absurd h List.not_mem_nil⟩

/-! ## Reading -/

/-- The song with an id, hidden or not. -/
def get? (table : Table) (id : SongId) : Option Song :=
  table.songs.find? fun song => song.id = id

/-- Every song, in the order of listings. -/
def listed (table : Table) : List Song :=
  table.songs.mergeSort Song.listedBefore

/-- The visible songs, in the order of listings. -/
def visible (table : Table) : List Song :=
  table.listed.filter (·.visible)

theorem listed_perm (table : Table) : table.listed.Perm table.songs :=
  List.mergeSort_perm _ _

/-- Among songs with different ids, those that are found by an id are those
that have it. -/
theorem find?_id_eq_some_iff {songs : List Song} (h : (songs.map Song.id).Nodup)
    {id : SongId} {song : Song} : songs.find? (fun s => s.id = id) = some song ↔
      song ∈ songs ∧ song.id = id := by
  induction songs with
  | nil => simp
  | cons s songs ih =>
    rw [List.map_cons, List.nodup_cons] at h
    rw [List.find?_cons]
    by_cases hs : s.id = id
    · simp only [hs, decide_true, Option.some.injEq, List.mem_cons]
      constructor
      · rintro rfl
        exact ⟨.inl rfl, hs⟩
      · rintro ⟨rfl | hmem, hid⟩
        · rfl
        · exact absurd (List.mem_map.2 ⟨song, hmem, hid.trans hs.symm⟩) h.1
    · simp only [hs, decide_false, List.mem_cons, ih h.2]
      constructor
      · exact fun ⟨hmem, hid⟩ => ⟨.inr hmem, hid⟩
      · rintro ⟨rfl | hmem, hid⟩
        · exact absurd hid hs
        · exact ⟨hmem, hid⟩

/-- Among the same songs in another order the same ones are found by their
ids. -/
theorem find?_id_of_perm {songs others : List Song} (h : songs.Perm others)
    (hnodup : (songs.map Song.id).Nodup) (id : SongId) :
    songs.find? (fun song => song.id = id) =
      others.find? (fun song => song.id = id) := by
  have hothers : (others.map Song.id).Nodup :=
    (h.map Song.id).nodup_iff.1 hnodup
  refine Option.ext fun song => ?_
  rw [find?_id_eq_some_iff hnodup, find?_id_eq_some_iff hothers, h.mem_iff]

theorem get?_eq_some_iff {table : Table} {id : SongId} {song : Song} :
    table.get? id = some song ↔ song ∈ table.songs ∧ song.id = id :=
  find?_id_eq_some_iff table.ids_nodup

theorem isStored_of_get? {table : Table} {id : SongId} {song : Song}
    (h : table.get? id = some song) : song.IsStored :=
  table.isStored song (get?_eq_some_iff.1 h).1

/-! ## Adding -/

/-- Adds a song. Its id must be new and its timestamps such as a table can
keep. -/
def add (table : Table) (song : Song) : Except CatalogError Table :=
  if h : song.IsStorable ∧ song.id ∉ table.songs.map Song.id then
    .ok {
      songs := table.songs ++ [song.truncateToMicros]
      ids_nodup := by
        rw [List.map_append, List.nodup_append]
        refine ⟨table.ids_nodup, by simp, ?_⟩
        intro a ha b hb
        simp only [List.map_cons, List.map_nil, List.mem_singleton] at hb
        rintro rfl
        exact h.2 (hb ▸ ha)
      isStored := by
        intro s hs
        rcases List.mem_append.1 hs with hs | hs
        · exact table.isStored s hs
        · rw [List.mem_singleton.1 hs]
          exact h.1.truncated }
  else .error .database

theorem get?_of_add {table after : Table} {song : Song}
    (h : table.add song = .ok after) (id : SongId) :
    after.get? id =
      if song.id = id then some song.truncateToMicros else table.get? id := by
  unfold add at h
  split at h
  · next hadd =>
    cases h
    show (table.songs ++ [song.truncateToMicros]).find? (fun s => s.id = id) = _
    rw [List.find?_append]
    show ((table.get? id).or ([song.truncateToMicros].find? fun s =>
        s.id = id)) = _
    by_cases hid : song.id = id
    · have hnone : table.get? id = none := by
        rw [Option.eq_none_iff_forall_not_mem]
        intro s hs
        have hmem := get?_eq_some_iff.1 hs
        exact hadd.2 (List.mem_map.2 ⟨s, hmem.1, hmem.2.trans hid.symm⟩)
      have htrue : decide (song.truncateToMicros.id = id) = true :=
        decide_eq_true hid
      simp [hnone, hid, htrue]
    · have hfalse : decide (song.truncateToMicros.id = id) = false :=
        decide_eq_false hid
      simp [hid, hfalse]
  · cases h

/-- Adds songs one after the other. If one of them cannot be added, none is. -/
def addAll (table : Table) (songs : List Song) : Except CatalogError Table :=
  songs.foldlM add table

/-! ## Changing -/

/-- Puts a song in the place of the one with its id. -/
def replace (table : Table) (song : Song) (h : song.IsStored) : Table where
  songs :=
    table.songs.map fun other => if other.id = song.id then song else other
  ids_nodup := by
    have hid : Song.id ∘
        (fun other : Song => if other.id = song.id then song else other) =
        Song.id := by
      funext other
      show (if other.id = song.id then song else other).id = other.id
      split
      · next heq => exact heq.symm
      · rfl
    rw [List.map_map, hid]
    exact table.ids_nodup
  isStored := by
    intro s hs
    obtain ⟨other, hother, rfl⟩ := List.mem_map.1 hs
    show (if other.id = song.id then song else other).IsStored
    split
    · exact h
    · exact table.isStored other hother

theorem get?_replace {table : Table} {old song : Song} (h : song.IsStored)
    (hold : table.get? song.id = some old) (id : SongId) :
    (table.replace song h).get? id =
      if song.id = id then some song else table.get? id := by
  split
  · next hid =>
    refine get?_eq_some_iff.2 ⟨List.mem_map.2 ⟨old, ?_, ?_⟩, hid⟩
    · exact (get?_eq_some_iff.1 hold).1
    · exact if_pos (get?_eq_some_iff.1 hold).2
  · next hid =>
    refine Option.ext fun s => ?_
    rw [get?_eq_some_iff, get?_eq_some_iff]
    constructor
    · rintro ⟨hmem, hs⟩
      obtain ⟨other, hother, rfl⟩ := List.mem_map.1 hmem
      by_cases heq : other.id = song.id
      · exact absurd ((congrArg Song.id (if_pos heq)).symm.trans hs) hid
      · simp only [heq, if_false] at hs ⊢
        exact ⟨hother, hs⟩
    · rintro ⟨hmem, hs⟩
      have hne : ¬s.id = song.id := fun heq => hid (heq.symm.trans hs)
      exact ⟨List.mem_map.2 ⟨s, hmem, if_neg hne⟩, hs⟩

/-- Shows or hides the song with an id. -/
def setVisible (table : Table) (id : SongId) (visible : Bool) :
    Except CatalogError Table :=
  match h : table.get? id with
  | none => .error (.songNotFound id)
  | some song =>
    have hs := isStored_of_get? h
    .ok (table.replace { song with visible } ⟨hs.1, hs.2⟩)

/-- Notes that the song with an id was queued: when, and once more. -/
def markQueued (table : Table) (id : SongId) (at_ : Instant) :
    Except CatalogError Table :=
  match h : table.get? id with
  | none => .error (.songNotFound id)
  | some song =>
    if ht : at_.IsStorable then
      match Text.fit? (song.playCount.toInt + 1) with
      | some playCount =>
        .ok <| table.replace { song with
            lastQueued := some at_.truncateToMicros, playCount } <| by
          refine ⟨(isStored_of_get? h).1, fun t heq => ?_⟩
          rw [← Option.some.inj heq]
          exact ht.truncated
      | none => .error .database
    else .error .database

end Table

end Songbook
