import Mathlib.Data.List.Nodup
import Mathlib.Data.List.Perm.Basic
import Mathlib.Data.Prod.Lex
import Songbook.Proofs.ByteOrder
import Songbook.Proofs.History

/-!
# Listings

A listing is told by the set of the songs that are in the table. The order in
which they came, and were shown, hidden or queued, has left a trace in the
table, but not in what is listed: of any two songs of a table one comes before
the other, for the ids decide where all else agrees, and there is only one way
to put the songs of a set into such an order. What a filter or a search
answers is taken from the listing in its order, so it is told by the set as
well.
-/

namespace Songbook

/-! ## The order of listings -/

namespace Song

/-- What songs are listed by: artist, album, track, title and id, each text
and the id as bytes. -/
def listingKey (song : Song) :
    List Nat ×ₗ List Nat ×ₗ Int ×ₗ List Nat ×ₗ List Nat :=
  toLex (Text.byteValues song.artist.toList,
    toLex (Text.byteValues song.album.toList,
    toLex (song.track.toInt,
      toLex (Text.byteValues song.title.toList, song.id.octets))))

theorem id_eq_of_listingKey_eq {a b : Song} (h : a.listingKey = b.listingKey) :
    a.id = b.id :=
  SongId.octets_inj
    (congrArg (fun key => (ofLex (ofLex (ofLex (ofLex key).2).2).2).2) h)

theorem compare_text_eq_lt_iff {a b : String} :
    compare a b = .lt ↔
      Text.byteValues a.toList < Text.byteValues b.toList := by
  rw [Text.byteValues_lt_iff]
  exact compareOfLessAndEq_eq_lt

theorem compare_text_eq_eq_iff {a b : String} :
    compare a b = .eq ↔
      Text.byteValues a.toList = Text.byteValues b.toList := by
  rw [Std.compare_eq_iff_eq]
  exact ⟨fun h => by rw [h],
    fun h => String.toList_inj.1 (Text.byteValues_injective h)⟩

theorem compare_track_eq_lt_iff {a b : Int64} :
    compare a b = .lt ↔ a.toInt < b.toInt := by
  rw [← Int64.lt_iff_toInt_lt]
  exact compareOfLessAndEq_eq_lt

theorem compare_track_eq_eq_iff {a b : Int64} :
    compare a b = .eq ↔ a.toInt = b.toInt := by
  rw [Std.compare_eq_iff_eq, Int64.toInt_inj]

theorem isLE_compare_bits_iff {a b : SongId} :
    (compare a.bits.toNat b.bits.toNat).isLE ↔ a.octets ≤ b.octets := by
  rw [Nat.isLE_compare, ← not_lt, ← not_lt, SongId.octets_lt_iff]

theorem listedBefore_iff {a b : Song} :
    listedBefore a b = true ↔ a.listingKey ≤ b.listingKey := by
  simp only [listedBefore, compareListed, Ordering.isLE_then_iff_or, listingKey,
    Prod.Lex.toLex_le_toLex, compare_text_eq_lt_iff, compare_text_eq_eq_iff,
    compare_track_eq_lt_iff, compare_track_eq_eq_iff, isLE_compare_bits_iff]

/-- Whether songs stand in the order of listings, each strictly before the
next. -/
def Listed (songs : List Song) : Prop :=
  songs.Pairwise fun a b => a.listingKey < b.listingKey

variable {songs others : List Song}

/-- Songs can be listed in one way only. -/
theorem Listed.eq_of_perm (h : Listed songs) (hothers : Listed others)
    (hperm : songs.Perm others) :
    songs = others :=
  hperm.eq_of_pairwise
    (fun _ _ _ _ hab hba => absurd hab (lt_asymm hba)) h hothers

theorem Listed.filter (h : Listed songs) (p : Song → Bool) :
    Listed (songs.filter p) :=
  List.Pairwise.filter p h

theorem listed_mergeSort (h : (songs.map Song.id).Nodup) :
    Listed (songs.mergeSort listedBefore) := by
  have hsorted :
      (songs.mergeSort listedBefore).Pairwise (listedBefore · ·) := by
    refine List.pairwise_mergeSort (fun a b c hab hbc => ?_)
      (fun a b => ?_) songs
    · rw [listedBefore_iff] at hab hbc ⊢
      exact le_trans hab hbc
    · rw [Bool.or_eq_true, listedBefore_iff, listedBefore_iff]
      exact le_total _ _
  have hids : (songs.mergeSort listedBefore).Pairwise fun a b => a.id ≠ b.id :=
    List.pairwise_map.1
      (((List.mergeSort_perm songs _).map Song.id).nodup_iff.2 h)
  refine (hsorted.and hids).imp fun ⟨hle, hne⟩ => ?_
  exact lt_of_le_of_ne (listedBefore_iff.1 hle) fun heq =>
    hne (id_eq_of_listingKey_eq heq)

/-- Songs that are listed by the same keys stand in the order of listings
together. -/
theorem Listed.of_map_listingKey_eq (h : Listed songs)
    (hkeys : others.map listingKey = songs.map listingKey) : Listed others := by
  have hsongs : (songs.map listingKey).Pairwise (· < ·) := List.pairwise_map.2 h
  rw [← hkeys] at hsongs
  exact List.pairwise_map.1 hsongs

theorem Becomes.listingKey_eq {song after : Song} {steps : List Step}
    (h : song.Becomes steps after) : after.listingKey = song.listingKey := by
  rw [h.same]
  rfl

end Song

/-! ## The listing of a table -/

namespace Table

variable {table other after : Table} {steps : List Step}

theorem listed_listed (table : Table) : Song.Listed table.listed :=
  Song.listed_mergeSort table.ids_nodup

theorem nodup_songs (table : Table) : table.songs.Nodup :=
  List.Nodup.of_map Song.id table.ids_nodup

/-- Tables with the same songs have the same listing. -/
theorem listed_eq_of_mem_iff
    (h : ∀ song, song ∈ table.songs ↔ song ∈ other.songs) :
    table.listed = other.listed := by
  have hperm : table.songs.Perm other.songs :=
    (List.perm_ext_iff_of_nodup table.nodup_songs other.nodup_songs).2 h
  exact table.listed_listed.eq_of_perm other.listed_listed
    (table.listed_perm.trans (hperm.trans other.listed_perm.symm))

/-- What steps that leave songs where they are do not touch in any song is the
same in all. -/
theorem BecomeIn.map_eq {α : Type} {f : Song → α} {songs others : List Song}
    (h : BecomeIn songs steps others)
    (hf : ∀ {song after : Song}, song.Becomes steps after → f after = f song) :
    others.map f = songs.map f := by
  induction h with
  | nil => rfl
  | cons hbecomes _ ih => rw [List.map_cons, ih, hf hbecomes, List.map_cons]

/-- Steps that leave the songs of a table where they are leave them where they
are listed. -/
theorem BecomeIn.listed (h : BecomeIn table.songs steps after.songs) :
    BecomeIn table.listed steps after.listed := by
  obtain ⟨songs, hsongs, hperm⟩ := List.perm_comp_forall₂ table.listed_perm h
  have hlisted : Song.Listed songs :=
    table.listed_listed.of_map_listingKey_eq
      (BecomeIn.map_eq hsongs Song.Becomes.listingKey_eq)
  rwa [hlisted.eq_of_perm after.listed_listed
    (hperm.trans after.listed_perm.symm)] at hsongs

end Table

/-! ## What a catalog answers -/

namespace Catalog

variable {catalog other : Catalog} {table : Table}

/-- Whether two catalogs answer alike when they are asked for songs. -/
structure AnswersLike (catalog other : Catalog) : Prop where
  all : (catalog.perform .all).1 = (other.perform .all).1
  visible : (catalog.perform .visible).1 = (other.perform .visible).1
  titles : (catalog.perform .titles).1 = (other.perform .titles).1
  filter (form : Filter.Form) (address : String) (now : Instant) :
    (catalog.perform (.filter form address now)).1 =
      (other.perform (.filter form address now)).1
  search (query : String) :
    (catalog.perform (.search query)).1 = (other.perform (.search query)).1

theorem perform_titles (htable : catalog.table? = some table) :
    catalog.perform .titles =
      (.ok (.titles (table.listed.map Song.title)), catalog) := by
  obtain ⟨root, configText, table?⟩ := catalog
  cases htable
  rfl

theorem perform_filter (htable : catalog.table? = some table)
    (form : Filter.Form) (address : String) (now : Instant) :
    catalog.perform (.filter form address now) =
      ((Filter.run form address (.ok table.visible) now).map .outcome,
        catalog) := by
  obtain ⟨root, configText, table?⟩ := catalog
  cases htable
  rfl

theorem perform_search (htable : catalog.table? = some table) (query : String) :
    catalog.perform (.search query) =
      (.ok (.songs (Search.find query table.visible)), catalog) := by
  obtain ⟨root, configText, table?⟩ := catalog
  cases htable
  rfl

/-- What is answered when songs are asked for is taken from the listing. -/
theorem answersLike_of_listed_eq {table' : Table}
    (htable : catalog.table? = some table) (hother : other.table? = some table')
    (h : table.listed = table'.listed) :
    catalog.AnswersLike other := by
  have hreports := reports_listed htable
  have hothers := reports_listed hother
  have hvisible : table.visible = table'.visible :=
    congrArg (List.filter Song.visible) h
  constructor
  case all => rw [hreports.all, hothers.all, h]
  case visible => rw [hreports.visible, hothers.visible, h]
  case titles => rw [perform_titles htable, perform_titles hother, h]
  case filter =>
    intro form address now
    rw [perform_filter htable, perform_filter hother, hvisible]
  case search =>
    intro query
    rw [perform_search htable, perform_search hother, hvisible]

/-- Showing, hiding and queueing leave the songs where they are listed. -/
theorem listed_of_change_in_place {step : Step}
    {f : Table → Except CatalogError Table} {answer : Answer} {after : Table}
    (hstep : step.change? = some (f, answer)) (hadded : step.added = [])
    (h : f table = .ok after) :
    after.listed.map Song.id = table.listed.map Song.id := by
  obtain ⟨kept, hsongs, hkept⟩ := Table.exists_kept_of_change? hstep h
  rw [hadded, List.map_nil, List.append_nil] at hsongs
  rw [← hsongs] at hkept
  exact hkept.listed.map_eq Song.Becomes.id_eq

/-- A step that adds no songs, whether it succeeds or fails, leaves those of a
table where they are listed. -/
theorem exists_listed_of_perform {step : Step}
    (htable : catalog.table? = some table) (hadded : step.added = []) :
    ∃ after, (catalog.perform step).2.table? = some after ∧
      after.listed.map Song.id = table.listed.map Song.id := by
  have htakes := takes_perform catalog step
  generalize (catalog.perform step).1 = result at htakes
  generalize (catalog.perform step).2 = next at htakes
  cases htakes with
  | failed | asked => exact ⟨table, htable, rfl⟩
  | created text hnone =>
    rw [htable] at hnone
    cases hnone
  | changed hstep hthere h =>
    rw [htable] at hthere
    cases hthere
    exact ⟨_, rfl, listed_of_change_in_place hstep hadded h⟩

/-- A run ends with its songs in the one order of listings: those of the
table, each once, each strictly before the next by artist, album, track, title
and id, and the visible ones among them in that order. So all that is answered
of songs is told by which songs there are, however the run came by them, and
another run that ends with the same songs answers alike. A step that adds no
song, such as those that show, hide or queue one, leaves the songs in their
order. -/
theorem listings_canonical {root root' : String}
    {configText configText' : Option String} {steps steps' : List Step}
    {table table' : Table}
    (htable : ((⟨root, configText, none⟩ : Catalog).run steps).2.table? =
      some table)
    (htable' : ((⟨root', configText', none⟩ : Catalog).run steps').2.table? =
      some table') :
    let catalog := ((⟨root, configText, none⟩ : Catalog).run steps).2
    let other := ((⟨root', configText', none⟩ : Catalog).run steps').2
    ∃ songs, catalog.Reports songs ∧
      songs.Pairwise (fun a b => a.listingKey < b.listingKey) ∧
      songs.Perm table.songs ∧ songs.Nodup ∧
      ((∀ song, song ∈ table.songs ↔ song ∈ table'.songs) →
        catalog.AnswersLike other) ∧
      ∀ step : Step, step.added = [] →
        ∃ after, (catalog.perform step).2.Reports after ∧
          after.map Song.id = songs.map Song.id := by
  intro catalog other
  refine ⟨table.listed, reports_listed htable, table.listed_listed,
    table.listed_perm,
    table.listed_perm.nodup_iff.2 table.nodup_songs, fun hsame => ?_,
    fun step hadded => ?_⟩
  · exact answersLike_of_listed_eq htable htable'
      (Table.listed_eq_of_mem_iff hsame)
  · obtain ⟨after, hafter, hids⟩ := exists_listed_of_perform htable hadded
    exact ⟨after.listed, reports_listed hafter, hids⟩

/-- A visible song without an album and with a negative track. -/
def sampleShown : Song where
  id := ⟨2#128⟩
  title := "Für Elise"
  album := ""
  artist := "Beethoven"
  track := -1
  time := 175
  playCount := 0
  dateAdded := .epoch
  lastQueued := none
  visible := true

/-- A song that only its id tells from the other, but for being hidden. -/
def sampleHidden : Song :=
  { sampleShown with id := ⟨1#128⟩, visible := false }

/-- Adding a song and hiding it later comes to adding it hidden, and before or
after the other is all the same. -/
theorem listings_canonical_sample :
    let catalog := ((Catalog.atRoot "/first").run [.init, .add sampleShown,
      .add { sampleHidden with visible := true },
      .setVisible sampleHidden.id false]).2
    let other :=
      ((Catalog.atRoot "/second").run
        [.init, .addAll [sampleHidden, sampleShown]]).2
    catalog.AnswersLike other := by
  have hsongs : ((Catalog.atRoot "/first").run [.init, .add sampleShown,
      .add { sampleHidden with visible := true },
      .setVisible sampleHidden.id false]).2.table?.map
        Table.songs = some [sampleShown, sampleHidden] := rfl
  have hsongs' : ((Catalog.atRoot "/second").run
      [.init, .addAll [sampleHidden, sampleShown]]).2.table?.map Table.songs =
        some [sampleHidden, sampleShown] := rfl
  obtain ⟨table, htable, heq⟩ := Option.map_eq_some_iff.1 hsongs
  obtain ⟨table', htable', heq'⟩ := Option.map_eq_some_iff.1 hsongs'
  obtain ⟨_, -, -, -, -, halike, -⟩ := listings_canonical htable htable'
  refine halike fun song => ?_
  rw [heq, heq']
  exact (List.Perm.swap sampleHidden sampleShown []).mem_iff

end Catalog

end Songbook
