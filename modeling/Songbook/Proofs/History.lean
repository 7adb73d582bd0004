import Mathlib.Data.List.Forall2
import Songbook.Proofs.Steps

/-!
# The table and the steps before it

After any steps, whichever of them failed, the song table is told by those
that succeeded: each song in it was added by one of them, and is as it was
given there but for what the steps after that made of it. The invariant pairs
the songs of the table, in the order in which they stand there, with the songs
that were given, each with the steps that succeeded since (`Step.givenSince`).
A step that succeeds either changes songs in place, and then is one more step
since for all of them, or puts songs behind them, since which there was no
step yet. That two songs with one id were never added follows, for the table
has none.
-/

namespace Songbook

/-! ## What a step says of a song -/

namespace Step

/-- The songs that a step is to add. -/
def added : Step → List Song
  | .add song => [song]
  | .addAll songs => songs
  | _ => []

/-- Whether the song with an id is to be visible, if a step says so. -/
def visibility? (id : SongId) : Step → Option Bool
  | .setVisible other value => if other = id then some value else none
  | _ => none

/-- When the song with an id was queued, if a step says so. -/
def queuedAt? (id : SongId) : Step → Option Instant
  | .markQueued other at_ => if other = id then some at_ else none
  | _ => none

theorem IsQuestion.silent {step : Step} (h : step.IsQuestion) :
    step.added = [] ∧ (∀ id, step.visibility? id = none) ∧
      ∀ id, step.queuedAt? id = none := by
  cases step with
  | add | addAll | setVisible | markQueued => cases h.2
  | _ => exact ⟨rfl, fun _ => rfl, fun _ => rfl⟩

/-- The songs that steps add, each with the steps after its own. -/
def givenSince : List Step → List (Song × List Step)
  | [] => []
  | step :: since => step.added.map (·, since) ++ givenSince since

theorem mem_givenSince_iff {steps since : List Step} {given : Song} :
    (given, since) ∈ givenSince steps ↔
      ∃ before step, steps = before ++ step :: since ∧ given ∈ step.added := by
  induction steps with
  | nil => simp [givenSince]
  | cons step steps ih =>
    rw [givenSince, List.mem_append, ih]
    constructor
    · rintro (hmem | ⟨before, other, rfl, hmem⟩)
      · obtain ⟨song, hsong, heq⟩ := List.mem_map.1 hmem
        cases heq
        exact ⟨[], step, rfl, hsong⟩
      · exact ⟨step :: before, other, rfl, hmem⟩
    · rintro ⟨before, other, heq, hmem⟩
      cases before with
      | nil =>
        cases heq
        exact .inl (List.mem_map_of_mem hmem)
      | cons first before =>
        cases heq
        exact .inr ⟨before, other, rfl, hmem⟩

/-- One more step is a step since for the songs that were given before it. -/
theorem givenSince_concat (steps : List Step) (step : Step) :
    givenSince (steps ++ [step]) =
      (givenSince steps).map (fun given => (given.1, given.2 ++ [step])) ++
        step.added.map (·, []) := by
  induction steps with
  | nil => simp [givenSince]
  | cons first steps ih =>
    rw [List.cons_append, givenSince, ih, givenSince, List.map_append,
      List.map_map, List.append_assoc]
    rfl

theorem givenSince_map_fst (steps : List Step) :
    (givenSince steps).map Prod.fst = steps.flatMap added := by
  induction steps with
  | nil => rfl
  | cons step steps ih =>
    rw [givenSince, List.map_append, ih, List.map_map, List.flatMap_cons]
    exact congrArg (· ++ _) (List.map_id _)

end Step

/-! ## What becomes of a song -/

/-- What steps that succeed make of a song of the table. Of those that show or
hide it the last one counts, and of those that note that it was queued the
last one too, in the order of the steps and not of the instants; each of these
raises the count. Everything else stays. -/
structure Song.Becomes (song : Song) (steps : List Step) (after : Song) :
    Prop where
  same : after = { song with
    visible := after.visible
    lastQueued := after.lastQueued
    playCount := after.playCount }
  visible : after.visible =
    (steps.filterMap (Step.visibility? song.id)).getLast?.getD song.visible
  lastQueued : after.lastQueued =
    ((steps.filterMap (Step.queuedAt? song.id)).getLast?.map
      Instant.truncateToMicros).or
      song.lastQueued
  playCount : after.playCount.toInt =
    song.playCount.toInt + (steps.filterMap (Step.queuedAt? song.id)).length

namespace Song.Becomes

variable {song next after other : Song} {steps more : List Step}

theorem id_eq (h : song.Becomes steps after) : after.id = song.id :=
  (congrArg Song.id h.same).trans rfl

theorem of_silent (hvisible : steps.filterMap (Step.visibility? song.id) = [])
    (hqueued : steps.filterMap (Step.queuedAt? song.id) = []) :
    song.Becomes steps song where
  same := rfl
  visible := by rw [hvisible]; rfl
  lastQueued := by rw [hqueued]; rfl
  playCount := by rw [hqueued]; exact (Int.add_zero _).symm

theorem append (h : song.Becomes steps next) (hmore : next.Becomes more after) :
    song.Becomes (steps ++ more) after where
  same := by
    have hsong := h.same
    have hnext := hmore.same
    rw [hsong] at hnext
    exact hnext
  -- What the later steps say counts; where they say nothing, what the earlier
  -- ones said.
  visible := by
    rw [hmore.visible, h.id_eq, h.visible, List.filterMap_append,
      List.getLast?_append]
    cases (more.filterMap (Step.visibility? song.id)).getLast? <;> rfl
  lastQueued := by
    rw [hmore.lastQueued, h.id_eq, h.lastQueued, List.filterMap_append,
      List.getLast?_append]
    cases (more.filterMap (Step.queuedAt? song.id)).getLast? <;> rfl
  playCount := by
    rw [hmore.playCount, h.id_eq, h.playCount, List.filterMap_append,
      List.length_append]
    omega

theorem unique (h : song.Becomes steps after)
    (hother : song.Becomes steps other) :
    after = other := by
  have hvisible : after.visible = other.visible :=
    h.visible.trans hother.visible.symm
  have hlastQueued : after.lastQueued = other.lastQueued :=
    h.lastQueued.trans hother.lastQueued.symm
  -- Counts are told as integers, and no two counts are one integer.
  have hplayCount : after.playCount = other.playCount :=
    Int64.toInt_inj.1 (h.playCount.trans hother.playCount.symm)
  rw [h.same, hother.same, hvisible, hlastQueued, hplayCount]

end Song.Becomes

/-! ## What becomes of the songs of a table -/

namespace Table

variable {table after : Table} {step : Step}

/-- What becomes of songs by steps that succeed and leave them where they are.
-/
def BecomeIn (songs : List Song) (steps : List Step) (after : List Song) :
    Prop :=
  List.Forall₂ (fun song other => song.Becomes steps other) songs after

theorem becomeIn_of_silent {songs : List Song}
    (hvisible : ∀ id, step.visibility? id = none)
    (hqueued : ∀ id, step.queuedAt? id = none) :
    BecomeIn songs [step] songs := by
  refine List.forall₂_same.2 fun song _ => .of_silent ?_ ?_
  · rw [List.filterMap_cons_none (hvisible song.id), List.filterMap_nil]
  · rw [List.filterMap_cons_none (hqueued song.id), List.filterMap_nil]

/-- When a song is put in place of one with its id, that is all that becomes
of the songs. -/
theorem becomeIn_replace {old song : Song} (hstored : song.IsStored)
    (hold : table.get? song.id = some old) (hsong : old.Becomes [step] song)
    (hvisible : ∀ id, id ≠ song.id → step.visibility? id = none)
    (hqueued : ∀ id, id ≠ song.id → step.queuedAt? id = none) :
    BecomeIn table.songs [step] (table.replace song hstored).songs := by
  refine List.forall₂_map_right_iff.2 (List.forall₂_same.2 fun other hmem => ?_)
  split
  · next hid =>
    -- No other song of the table has this id, so the one that was there is
    -- the one that was found.
    have hother : table.get? song.id = some other :=
      get?_eq_some_iff.2 ⟨hmem, hid⟩
    rw [hold] at hother
    cases hother
    exact hsong
  · next hid =>
    refine .of_silent ?_ ?_
    · rw [List.filterMap_cons_none (hvisible other.id hid), List.filterMap_nil]
    · rw [List.filterMap_cons_none (hqueued other.id hid), List.filterMap_nil]

theorem becomeIn_setVisible {id : SongId} {value : Bool}
    (h : table.setVisible id value = .ok after) :
    BecomeIn table.songs [.setVisible id value] after.songs := by
  unfold setVisible at h
  split at h
  · cases h
  · next song hsong =>
    cases h
    have hid : song.id = id := (get?_eq_some_iff.1 hsong).2
    subst hid
    have hsaid : [Step.setVisible song.id value].filterMap
        (Step.visibility? song.id) = [value] :=
      List.filterMap_cons_some (if_pos rfl)
    refine becomeIn_replace _ hsong ⟨rfl, ?_, rfl, (Int.add_zero _).symm⟩ ?_
      fun _ _ => rfl
    · rw [hsaid]
      rfl
    · exact fun id hid => if_neg hid.symm

theorem becomeIn_markQueued {id : SongId} {at_ : Instant}
    (h : table.markQueued id at_ = .ok after) :
    BecomeIn table.songs [.markQueued id at_] after.songs := by
  unfold markQueued at h
  split at h
  · cases h
  · next song hsong =>
    split at h
    · split at h
      · next playCount hcount =>
        cases h
        have hid : song.id = id := (get?_eq_some_iff.1 hsong).2
        subst hid
        have hsaid : [Step.markQueued song.id at_].filterMap
            (Step.queuedAt? song.id) = [at_] :=
          List.filterMap_cons_some (if_pos rfl)
        refine becomeIn_replace _ hsong ⟨rfl, rfl, ?_, ?_⟩ (fun _ _ => rfl) ?_
        · rw [hsaid]
          rfl
        · rw [hsaid]
          exact Text.fit?_eq_some_iff.1 hcount
        · exact fun id hid => if_neg hid.symm
      · cases h
    · cases h

/-- A step that changes the table changes songs in place and puts those that
it adds behind them. -/
theorem exists_kept_of_change? {f : Table → Except CatalogError Table}
    {answer : Answer} (hstep : step.change? = some (f, answer))
    (h : f table = .ok after) :
    ∃ kept, after.songs = kept ++ step.added.map Song.truncateToMicros ∧
      BecomeIn table.songs [step] kept := by
  cases step with
  | add song =>
    cases hstep
    exact ⟨table.songs, songs_of_add h,
      becomeIn_of_silent (fun _ => rfl) fun _ => rfl⟩
  | addAll songs =>
    cases hstep
    exact ⟨table.songs, songs_of_addAll h,
      becomeIn_of_silent (fun _ => rfl) fun _ => rfl⟩
  | setVisible id value =>
    cases hstep
    exact ⟨after.songs, (List.append_nil _).symm, becomeIn_setVisible h⟩
  | markQueued id at_ =>
    cases hstep
    exact ⟨after.songs, (List.append_nil _).symm, becomeIn_markQueued h⟩
  | _ => cases hstep

end Table

/-! ## What becomes of the table -/

/-- Songs as they were given, but for what the steps since made of them. -/
def Table.AsGiven (given : List (Song × List Step)) (songs : List Song) :
    Prop :=
  List.Forall₂ (fun given song =>
    given.1.truncateToMicros.Becomes given.2 song) given songs

namespace Table.AsGiven

variable {given : List (Song × List Step)} {songs kept : List Song}
  {done : List Step} {step : Step}

/-- Steps that leave the songs where they are are steps since, for each of
them. -/
theorem becomeIn {steps : List Step} (h : AsGiven given songs)
    (hkept : BecomeIn songs steps kept) :
    AsGiven (given.map fun given => (given.1, given.2 ++ steps)) kept := by
  refine List.forall₂_map_left_iff.2 ?_
  induction h generalizing kept with
  | nil =>
    cases hkept
    exact .nil
  | cons hbecomes _ ih =>
    cases hkept with
    | cons hsong hrest => exact .cons (hbecomes.append hsong) (ih hrest)

theorem concat (h : AsGiven (Step.givenSince done) songs)
    (hkept : BecomeIn songs [step] kept) :
    AsGiven (Step.givenSince (done ++ [step]))
      (kept ++ step.added.map Song.truncateToMicros) := by
  rw [Step.givenSince_concat]
  refine List.rel_append (h.becomeIn hkept) ?_
  rw [List.forall₂_map_left_iff, List.forall₂_map_right_iff]
  exact List.forall₂_same.2 fun song _ => .of_silent rfl rfl

theorem map_id_eq (h : AsGiven given songs) :
    songs.map Song.id = (given.map Prod.fst).map Song.id := by
  induction h with
  | nil => rfl
  | cons hbecomes _ ih =>
    rw [List.map_cons, ih, hbecomes.id_eq]
    rfl

theorem mem_iff (h : AsGiven given songs) {song : Song} :
    song ∈ songs ↔ ∃ first since, (first, since) ∈ given ∧
      first.truncateToMicros.Becomes since song := by
  induction h with
  | nil => simp
  | @cons first other _ _ hbecomes _ ih =>
    rw [List.mem_cons, ih]
    constructor
    · rintro (rfl | ⟨next, since, hmem, hnext⟩)
      · exact ⟨first.1, first.2, List.mem_cons_self, hbecomes⟩
      · exact ⟨next, since, List.mem_cons_of_mem _ hmem, hnext⟩
    · rintro ⟨next, since, hmem, hnext⟩
      rcases List.mem_cons.1 hmem with rfl | hmem
      · exact .inl (hnext.unique hbecomes)
      · exact .inr ⟨next, since, hmem, hnext⟩

end Table.AsGiven

namespace Catalog

variable {catalog after : Catalog} {table : Table} {done : List Step}
  {step : Step}

/-- What the steps that succeeded say about a catalog: without `init` there is
no table and no song was added, with it the table has the songs that were
given, as they became since. -/
def OwesTo (catalog : Catalog) (done : List Step) : Prop :=
  match catalog.table? with
  | none => .init ∉ done ∧ Step.givenSince done = []
  | some table =>
    .init ∈ done ∧ Table.AsGiven (Step.givenSince done) table.songs

theorem owesTo_iff_of_none (htable : catalog.table? = none) :
    catalog.OwesTo done ↔ .init ∉ done ∧ Step.givenSince done = [] := by
  rw [OwesTo, htable]

theorem owesTo_iff_of_some (htable : catalog.table? = some table) :
    catalog.OwesTo done ↔
      .init ∈ done ∧ Table.AsGiven (Step.givenSince done) table.songs := by
  rw [OwesTo, htable]

theorem OwesTo.concat_of_none (htable : catalog.table? = none)
    (h : catalog.OwesTo done) (hstep : step.added = []) :
    Step.givenSince (done ++ [step]) = [] := by
  rw [Step.givenSince_concat, ((owesTo_iff_of_none htable).1 h).2, hstep]
  rfl

/-- A step that succeeds is one more step that the catalog owes its songs to. -/
theorem OwesTo.takes {result : Except CatalogError Answer}
    (h : catalog.OwesTo done) (htakes : catalog.Takes step result after) :
    after.OwesTo (done ++ if result.isOk then [step] else []) := by
  cases htakes with
  | failed error => exact (List.append_nil done).symm ▸ h
  | asked answer hstep =>
    show catalog.OwesTo (done ++ [step])
    obtain ⟨hadded, hvisible, hqueued⟩ := hstep.silent
    cases htable : catalog.table? with
    | none =>
      refine (owesTo_iff_of_none htable).2 ⟨fun hmem => ?_,
        h.concat_of_none htable hadded⟩
      rcases List.mem_append.1 hmem with hmem | hmem
      · exact ((owesTo_iff_of_none htable).1 h).1 hmem
      · exact hstep.1 (List.mem_singleton.1 hmem).symm
    | some table =>
      obtain ⟨hinit, hsongs⟩ := (owesTo_iff_of_some htable).1 h
      refine (owesTo_iff_of_some htable).2 ⟨List.mem_append_left _ hinit, ?_⟩
      have hsame := hsongs.concat (Table.becomeIn_of_silent hvisible hqueued)
      rwa [hadded, List.map_nil, List.append_nil] at hsame
  | created text htable =>
    show OwesTo _ (done ++ [.init])
    refine (owesTo_iff_of_some rfl).2
      ⟨List.mem_append_right _ List.mem_cons_self, ?_⟩
    rw [h.concat_of_none htable rfl]
    exact .nil
  | @changed _ _ _ table next hstep htable hchange =>
    show OwesTo _ (done ++ [step])
    obtain ⟨hinit, hsongs⟩ := (owesTo_iff_of_some htable).1 h
    obtain ⟨kept, hnext, hkept⟩ := Table.exists_kept_of_change? hstep hchange
    refine (owesTo_iff_of_some rfl).2 ⟨List.mem_append_left _ hinit, ?_⟩
    rw [hnext]
    exact hsongs.concat hkept

/-- Steps that fail leave no trace, so a catalog owes its songs to those that
succeed. -/
theorem OwesTo.run {steps : List Step} (h : catalog.OwesTo done) :
    (catalog.run steps).2.OwesTo (done ++ (catalog.run steps).1.done) := by
  induction steps generalizing catalog done with
  | nil => exact (List.append_nil done).symm ▸ h
  | cons step steps ih =>
    rw [run_cons steps rfl, Log.done_cons, ← List.append_assoc]
    exact ih (h.takes (takes_perform catalog step))

/-! ## What is reported -/

/-- What a catalog answers when it is asked for its songs: for all of them,
for the visible ones, and for one by its id. -/
structure Reports (catalog : Catalog) (songs : List Song) : Prop where
  all : catalog.perform .all = (.ok (.songs songs), catalog)
  visible : catalog.perform .visible =
    (.ok (.songs (songs.filter (·.visible))), catalog)
  get (id : SongId) : catalog.perform (.get id) =
    (.ok (.song (songs.find? fun song => song.id = id)), catalog)

/-- What a catalog without a song table answers when it is asked for songs. -/
structure ReportsNone (catalog : Catalog) : Prop where
  all : catalog.perform .all = (.error (.notInitialized catalog.root), catalog)
  visible : catalog.perform .visible =
    (.error (.notInitialized catalog.root), catalog)
  get (id : SongId) : catalog.perform (.get id) =
    (.error (.notInitialized catalog.root), catalog)

theorem reportsNone (htable : catalog.table? = none) : catalog.ReportsNone := by
  obtain ⟨root, configText, table?⟩ := catalog
  cases htable
  exact ⟨rfl, rfl, fun _ => rfl⟩

theorem reports_listed (htable : catalog.table? = some table) :
    catalog.Reports table.listed := by
  obtain ⟨root, configText, table?⟩ := catalog
  cases htable
  refine ⟨rfl, rfl, fun id => ?_⟩
  rw [← Table.find?_id_of_perm table.listed_perm.symm table.ids_nodup id]
  rfl

/-- After any steps from a directory without a song table, the songs are told
by the steps that succeeded. No id was added twice. Without `init` there are
no songs to report; with it the songs that are reported are those of the
table, each id once, and each is as it was given by the step that added it,
cut down to the microsecond, but for what the steps since made of it. Cutting
a song down changes its two timestamps and nothing else, and takes of an
instant what is finer than a microsecond. -/
theorem songs_after_run (root : String) (configText : Option String)
    (steps : List Step) :
    let ran := (⟨root, configText, none⟩ : Catalog).run steps
    let done := ran.1.done
    let catalog := ran.2
    ((done.flatMap Step.added).map Song.id).Nodup ∧
      (.init ∉ done → catalog.table? = none ∧ done.flatMap Step.added = [] ∧
        catalog.ReportsNone) ∧
      (.init ∈ done → ∃ table songs, catalog.table? = some table ∧
        songs.Perm table.songs ∧
        catalog.Reports songs ∧ (songs.map Song.id).Nodup ∧
        (∀ id, id ∈ songs.map Song.id ↔
          ∃ step ∈ done, id ∈ step.added.map Song.id) ∧
        ∀ song, song ∈ songs ↔
          ∃ before step since given, done = before ++ step :: since ∧
          given ∈ step.added ∧ given.truncateToMicros.Becomes since song) ∧
      (∀ t : Instant,
        t.truncateToMicros.seconds * 1000000000 + t.truncateToMicros.nanos =
        (t.seconds * 1000000000 + t.nanos) / 1000 * 1000) ∧
      ∀ given kept : Song, kept = given.truncateToMicros ↔
        (kept.id = given.id ∧ kept.title = given.title ∧
          kept.album = given.album ∧ kept.artist = given.artist ∧
          kept.track = given.track ∧ kept.time = given.time ∧
          kept.playCount = given.playCount ∧ kept.visible = given.visible) ∧
        kept.dateAdded = given.dateAdded.truncateToMicros ∧
        kept.lastQueued = given.lastQueued.map Instant.truncateToMicros := by
  intro ran done catalog
  have hstart : OwesTo ⟨root, configText, none⟩ [] :=
    (owesTo_iff_of_none rfl).2 ⟨List.not_mem_nil, rfl⟩
  have howes : catalog.OwesTo done := hstart.run
  cases htable : catalog.table? with
  | none =>
    obtain ⟨hinit, hnone⟩ := (owesTo_iff_of_none htable).1 howes
    have hadded : done.flatMap Step.added = [] := by
      rw [← Step.givenSince_map_fst, hnone]; rfl
    refine ⟨?_, fun _ => ⟨rfl, hadded, reportsNone htable⟩,
      fun h => absurd h hinit, Instant.truncateToMicros_rounds_down,
      fun _ _ => Song.eq_truncateToMicros_iff⟩
    rw [hadded]
    exact List.nodup_nil
  | some table =>
    obtain ⟨hinit, hsongs⟩ := (owesTo_iff_of_some htable).1 howes
    have hids : table.songs.map Song.id =
        (done.flatMap Step.added).map Song.id := by
      rw [hsongs.map_id_eq, Step.givenSince_map_fst]
    have hperm := table.listed_perm
    refine ⟨hids ▸ table.ids_nodup, fun h => absurd hinit h,
      fun _ => ⟨table, table.listed, rfl,
      hperm, reports_listed htable, ?_, fun id => ?_, fun song => ?_⟩,
      Instant.truncateToMicros_rounds_down,
      fun _ _ => Song.eq_truncateToMicros_iff⟩
    · exact (hperm.map Song.id).nodup_iff.2 table.ids_nodup
    · rw [(hperm.map Song.id).mem_iff, hids, List.map_flatMap, List.mem_flatMap]
    · rw [hperm.mem_iff, hsongs.mem_iff]
      simp only [Step.mem_givenSince_iff]
      constructor
      · rintro ⟨given, since, ⟨before, step, heq, hmem⟩, hbecomes⟩
        exact ⟨before, step, since, given, heq, hmem, hbecomes⟩
      · rintro ⟨before, step, since, given, heq, hmem, hbecomes⟩
        exact ⟨given, since, ⟨before, step, heq, hmem⟩, hbecomes⟩

end Catalog

end Songbook
