import Songbook.Proofs.Batches
import Songbook.Proofs.Composition
import Songbook.Proofs.Keywords
import Songbook.Proofs.Listings

/-!
# Filtering what a table keeps

A table does not keep the instants that it was given but cuts them down to the
microsecond, and it does not keep the order in which the songs came. A filter
over the table still finds the songs that it would have found among those that
were given. The cut stays within the second, so it stays within the day; and
it stays on its side of every cutoff that falls on a microsecond, for the cut
instant is the last microsecond that the given one has reached. A window that
ends on a microsecond begins on one, since a whole number of milliseconds lies
between. There is one other cutoff, the last instant of all, where windows end
that reach too far into the future, and which is not on a microsecond; but no
instant that a table can keep comes near it.
-/

namespace Songbook

/-! ## Cutoffs -/

namespace Instant

variable {cutoff now t : Instant}

theorem le_truncateToMicros_iff (h : cutoff.nanos % 1000 = 0) :
    cutoff ≤ t.truncateToMicros ↔ cutoff ≤ t := by
  show (cutoff.seconds < t.seconds ∨
      cutoff.seconds = t.seconds ∧ cutoff.nanos ≤ t.nanos / 1000 * 1000) ↔
    (cutoff.seconds < t.seconds ∨ cutoff.seconds = t.seconds ∧
      cutoff.nanos ≤ t.nanos)
  omega

theorem earlier?_nanos (hnow : now.nanos % 1000 = 0) {milliseconds : Int}
    (h : now.earlier? milliseconds = some t) : t.nanos % 1000 = 0 := by
  unfold earlier? at h
  split at h
  · rw [← Option.some.inj h]
    exact hnow
  · have hsubsecond : now.subsecond % 1000 = 0 := by
      rw [subsecond]
      omega
    obtain ⟨-, hnanos⟩ := of?_eq_some_iff.1 h
    rw [hnanos]
    omega

/-- A window that ends on a microsecond begins on one, unless it begins at the
end of time. -/
theorem windowStart_nanos (hnow : now.nanos % 1000 = 0) (count : Int64)
    (unit : TimeUnit) :
    (now.windowStart count unit).nanos % 1000 = 0 ∨
      now.windowStart count unit = last := by
  simp only [windowStart]
  cases hstart : now.earlier? (unit.span count) with
  | some start => exact .inl (earlier?_nanos hnow hstart)
  | none =>
    rw [Option.getD_none]
    split
    · exact .inl rfl
    · exact .inr rfl

/-- The last instant is in a year that no table can keep. -/
theorem IsStorable.not_last_le (h : t.IsStorable) : ¬last ≤ t := by
  intro hle
  have hyear : t.date.year ≤ 9999 := h.1
  have hlast : last.seconds ≤ t.seconds := by
    rcases hle with hlt | ⟨heq, -⟩
    · exact Int.le_of_lt hlt
    · exact Int.le_of_eq heq
  have hend := t.isValid.2.1
  have hseconds : t.seconds = last.seconds := by
    show t.seconds = (Date.lastNumber + 1) * secondsPerDay - 1
    have hlast' : (Date.lastNumber + 1) * secondsPerDay - 1 ≤ t.seconds := hlast
    omega
  have hdate : t.date = last.date := by
    simp only [date, hseconds]
  rw [hdate] at hyear
  exact absurd hyear (by decide)

/-- To cut an instant that a table can keep moves it across no beginning of a
window. -/
theorem IsStorable.windowStart_le_iff (h : t.IsStorable)
    (hnow : now.nanos % 1000 = 0) (count : Int64) (unit : TimeUnit) :
    now.windowStart count unit ≤ t.truncateToMicros ↔
      now.windowStart count unit ≤ t := by
  rcases windowStart_nanos hnow count unit with hnanos | hlast
  · exact le_truncateToMicros_iff hnanos
  · rw [hlast]
    exact iff_of_false h.truncated.1.not_last_le h.not_last_le

end Instant

/-! ## Songs -/

open Songbook.Filter

variable {now : Instant} {song : Song} {songs : List Song}

theorem Song.instant_truncateToMicros (song : Song) (field : DateField) :
    song.truncateToMicros.instant field =
      (song.instant field).map Instant.truncateToMicros := by
  cases field with
  | dateAdded => rfl
  | lastQueued => rfl

theorem Song.IsStorable.instant (h : song.IsStorable) {field : DateField}
    {t : Instant} (ht : song.instant field = some t) : t.IsStorable := by
  cases field with
  | dateAdded =>
    cases ht
    exact h.1
  | lastQueued => exact h.2 t ht

theorem Filter.Leaf.holds_truncateToMicros_iff (h : song.IsStorable)
    (hnow : now.nanos % 1000 = 0) (test : Leaf) :
    test.Holds now song.truncateToMicros ↔ test.Holds now song := by
  have hexists (field : DateField) {p : Instant → Prop}
      (hp : ∀ t, t.IsStorable → (p t.truncateToMicros ↔ p t)) :
      (∃ t, song.truncateToMicros.instant field = some t ∧ p t) ↔
        ∃ t, song.instant field = some t ∧ p t := by
    rw [Song.instant_truncateToMicros]
    cases ht : song.instant field with
    | none => simp
    | some t => simpa using hp t (h.instant ht)
  cases test with
  | text field rule value => cases field <;> exact Iff.rfl
  | number field comparison => cases field <;> exact Iff.rfl
  | calendar field comparison => exact hexists field fun t _ => Iff.rfl
  | recent field count unit negated =>
    cases negated with
    | false =>
      exact hexists field fun t ht => ht.windowStart_le_iff hnow count unit
    | true =>
      refine hexists field fun t ht => ?_
      rw [← Instant.not_le_iff_lt, ← Instant.not_le_iff_lt,
        ht.windowStart_le_iff hnow]

/-- Whatever the tree, a song as a table keeps it passes when the song does.
The induction is on the tree: a branch asks of its children, for which it is
known. -/
theorem Filter.Node.holds_truncateToMicros_iff (h : song.IsStorable)
    (hnow : now.nanos % 1000 = 0) (node : Node) :
    node.Holds now song.truncateToMicros ↔ node.Holds now song := by
  induction node with
  | leaf test =>
    rw [Node.Holds, Node.Holds]
    exact test.holds_truncateToMicros_iff h hnow
  | branch combinator children ih =>
    rw [Node.holds_branch_iff, Node.holds_branch_iff]
    exact Combinator.asks_congr (fun _ => Iff.rfl) ih

/-! ## Lists of songs -/

namespace Song

/-- Songs as a table keeps and lists them. -/
def asStored (songs : List Song) : List Song :=
  (songs.map truncateToMicros).mergeSort listedBefore

theorem asStored_nil : asStored [] = [] := by
  rw [asStored, List.map_nil, List.mergeSort_nil]

theorem asStored_perm (songs : List Song) :
    (asStored songs).Perm (songs.map truncateToMicros) :=
  List.mergeSort_perm _ _

theorem map_id_truncateToMicros (songs : List Song) :
    (songs.map truncateToMicros).map id = songs.map id := by
  rw [List.map_map]
  rfl

theorem listed_asStored (h : (songs.map id).Nodup) : Listed (asStored songs) :=
  listed_mergeSort (map_id_truncateToMicros songs ▸ h)

theorem filter_asStored (h : (songs.map id).Nodup) {p q : Song → Bool}
    (hpq : ∀ song ∈ songs, p song.truncateToMicros = q song) :
    (asStored songs).filter p = asStored (songs.filter q) := by
  have hfilter : (songs.map truncateToMicros).filter p =
      (songs.filter q).map truncateToMicros := by
    rw [List.filter_map]
    exact congrArg _ (List.filter_congr hpq)
  have hnodup : ((songs.filter q).map id).Nodup :=
    h.sublist (List.filter_sublist.map id)
  have hperm : ((asStored songs).filter p).Perm
      (asStored (songs.filter q)) := by
    refine ((asStored_perm songs).filter p).trans ?_
    rw [hfilter]
    exact (asStored_perm _).symm
  exact ((listed_asStored h).filter p).eq_of_perm (listed_asStored hnodup) hperm

end Song

/-! ## Filters and searches -/

/-- The same outcome with other songs. -/
def Filter.Outcome.mapSongs (f : List Song → List Song) : Outcome → Outcome
  | filtered songs criteria => filtered (f songs) criteria
  | unfiltered songs => unfiltered (f songs)
  | rejected errors => rejected errors

/-- Searching is filtering by a tree, with the words as its leaves. -/
theorem Search.find_eq_filter {query : String}
    (hne : Text.words query.toList ≠ []) (now : Instant) (songs : List Song) :
    find query songs =
        songs.filter fun song =>
          (tree (Text.words query.toList)).Holds now song := by
  rw [find, predicate?_eq hne now]
  refine List.filter_congr fun song _ => ?_
  rw [Bool.eq_iff_iff, decide_eq_true_eq]
  exact Node.holds_compile

section Alike

variable (hids : (songs.map Song.id).Nodup)
  (hstorable : ∀ song ∈ songs, song.IsStorable)
include hids

theorem Filter.visible_asStored :
    (Song.asStored songs).filter (·.visible) =
      Song.asStored (visibleSongs songs) :=
  Song.filter_asStored hids fun _ _ => rfl

include hstorable

theorem Filter.Node.filter_asStored (hnow : now.nanos % 1000 = 0)
    (node : Node) :
    (Song.asStored songs).filter (fun song => node.Holds now song) =
      Song.asStored (songs.filter fun song => node.Holds now song) := by
  refine Song.filter_asStored hids fun song hsong => ?_
  rw [decide_eq_decide]
  exact node.holds_truncateToMicros_iff (hstorable song hsong) hnow

/-- A filter comes to the same whether the songs are as they were given or as
a table keeps them. -/
theorem Filter.run_asStored (hnow : now.nanos % 1000 = 0) (form : Form)
    (address : String) :
    run form address (.ok (Song.asStored songs)) now =
      (run form address (.ok songs) now).map (·.mapSongs Song.asStored) := by
  rcases run_cases form address now with ⟨fault, -, hrun⟩ |
    ⟨built, -, -, hrun⟩ |
    ⟨built, -, -, -, hrun⟩ | ⟨built, node, -, -, -, -, hrun⟩
  · rw [hrun, hrun]
    rfl
  · rw [hrun, hrun]
    rfl
  · rw [hrun, hrun]
    rfl
  · rw [hrun, hrun]
    simp only [Except.map, Outcome.mapSongs,
      node.filter_asStored hids hstorable hnow]

theorem Search.find_asStored (query : String) :
    find query (Song.asStored songs) = Song.asStored (find query songs) := by
  by_cases hne : Text.words query.toList = []
  · rw [find, find, predicate?_eq_none hne]
    exact Song.asStored_nil.symm
  · -- No word asks for the time, so any will do.
    rw [find_eq_filter hne .epoch, find_eq_filter hne .epoch]
    exact Filter.Node.filter_asStored hids hstorable rfl _

end Alike

/-! ## Tables and lists -/

namespace Catalog

theorem visible_of_addAll {table : Table} (hids : (songs.map Song.id).Nodup)
    (h : Table.empty.addAll songs = .ok table) :
    table.visible = Song.asStored (visibleSongs songs) := by
  have hsongs : table.songs = songs.map Song.truncateToMicros :=
    Table.songs_of_addAll h
  rw [Table.visible, Table.listed, hsongs]
  exact Filter.visible_asStored hids

/-- Songs that differ in their ids and that a table can keep are added to a
table without songs, together or one after the other, which comes to the same
catalog. A filter over this catalog comes to what it comes to over the list of
the songs: the fault, the errors and the number of criteria are the same, and
so are the songs, each cut down to the microsecond, in the order of listings;
provided that the present is told to the microsecond. A search finds the same
songs. -/
theorem filters_like_list {songs : List Song} {now : Instant} (root : String)
    (configText : Option String) (hids : (songs.map Song.id).Nodup)
    (hstorable : ∀ song ∈ songs, song.IsStorable)
    (hnow : now.nanos % 1000 = 0) :
    let fresh : Catalog := ⟨root, configText, some .empty⟩
    let store := (fresh.perform (.addAll songs)).2
    (fresh.perform (.addAll songs)).1 = .ok (.added songs.length) ∧
      (fresh.run (songs.map .add)).1.AllDone ∧
      (fresh.run (songs.map .add)).2 = store ∧
      (∀ form address, (store.perform (.filter form address now)).1 =
        (Filter.run form address (.ok (visibleSongs songs)) now).map
          fun outcome => .outcome (outcome.mapSongs Song.asStored)) ∧
      ∀ query, (store.perform (.search query)).1 =
        .ok (.songs
          (Song.asStored (Search.find query (visibleSongs songs)))) := by
  intro fresh store
  have hadmits : Table.empty.Admits songs :=
    ⟨hids, fun song hsong => ⟨hstorable song hsong, List.not_mem_nil⟩⟩
  obtain ⟨table, hadd⟩ := Table.addAll_eq_ok_iff.2 hadmits
  have hbatch : fresh.perform (.addAll songs) = _ := perform_of_ok rfl rfl hadd
  have htable : store.table? = some table := by
    show (fresh.perform (.addAll songs)).2.table? = _
    rw [hbatch]
  obtain ⟨hdone, hafter⟩ : (fresh.run (songs.map .add)).1.AllDone ∧
      (fresh.run (songs.map .add)).2 = { fresh with table? := some table } :=
    run_adds_of_ok rfl hadd
  have hvisible := visible_of_addAll hids hadd
  have hids' : ((visibleSongs songs).map Song.id).Nodup :=
    hids.sublist (List.filter_sublist.map Song.id)
  have hstorable' : ∀ song ∈ visibleSongs songs, song.IsStorable :=
    fun song hsong => hstorable song (List.mem_of_mem_filter hsong)
  refine ⟨congrArg Prod.fst hbatch, hdone, ?_, fun form address => ?_,
    fun query => ?_⟩
  · rw [hafter]
    exact (congrArg Prod.snd hbatch).symm
  · rw [perform_filter htable, hvisible,
      Filter.run_asStored hids' hstorable' hnow]
    cases Filter.run form address (.ok (visibleSongs songs)) now <;> rfl
  · rw [perform_search htable, hvisible, Search.find_asStored hids' hstorable']

/-- A song with nothing to it but when it was added. -/
def sampleAdded (number : Nat) (dateAdded : Instant) : Song where
  id := ⟨BitVec.ofNat 128 number⟩
  title := ""
  album := ""
  artist := ""
  track := 0
  time := 0
  playCount := 0
  dateAdded
  lastQueued := none
  visible := true

/-- A song added half a microsecond into 1970, which is cut off. -/
def sampleAfter : Song :=
  sampleAdded 2 ⟨0, 500, by decide⟩

/-- A song added a nanosecond before 1970. -/
def sampleBefore : Song :=
  sampleAdded 1 ⟨-1, 999999999, by decide⟩

/-- An hour after the start of 1970. -/
def sampleNow : Instant :=
  ⟨3600, 0, by decide⟩

/-- The filter of what was added within an hour. -/
def sampleWindow : Form :=
  .ofList [("k", "date_added"), ("k_r", "last"), ("k_f0", "1"),
    ("k_f1", "hour")]

/-- In the hour that began with 1970 a song added half a microsecond into it
still counts, cut down to the start itself, and one added a nanosecond before
does not. -/
theorem filters_like_list_sample :
    let fresh : Catalog := ⟨"/music", none, some .empty⟩
    let store := (fresh.perform (.addAll [sampleBefore, sampleAfter])).2
    (store.perform (.filter sampleWindow "k" sampleNow)).1 =
      .ok (.outcome (.filtered [sampleAdded 2 .epoch] 1)) := by
  have hids : ([sampleBefore, sampleAfter].map Song.id).Nodup := by decide
  have hstorable :
      ∀ song ∈ [sampleBefore, sampleAfter], song.IsStorable := by decide
  have hnow : sampleNow.nanos % 1000 = 0 := rfl
  obtain ⟨-, -, -, hfilter, -⟩ :=
    filters_like_list "/music" none hids hstorable hnow
  have hbuild : build sampleWindow "k" sampleNow.date =
      .ok ⟨some (.leaf (.recent .dateAdded 1 .hour false)), 1, []⟩ := rfl
  have hrun : Filter.run sampleWindow "k"
      (.ok (visibleSongs [sampleBefore, sampleAfter]))
      sampleNow = .ok (.filtered [sampleAfter] 1) := by
    rw [Filter.run, hbuild]
    rfl
  have hstored : Song.asStored [sampleAfter] = [sampleAdded 2 .epoch] := by
    rw [Song.asStored, List.map_singleton, List.mergeSort_singleton]
    rfl
  refine (hfilter sampleWindow "k").trans ?_
  rw [hrun]
  simp only [Except.map, Outcome.mapSongs, hstored]

end Catalog

end Songbook
