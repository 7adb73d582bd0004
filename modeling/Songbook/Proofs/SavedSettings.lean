import Songbook.Proofs.Exports

/-!
# Settings outlive their file

A configuration is written as a document of two or three lines, and a document
that was written says exactly what it was written for, so whatever text begins
a filter and whatever limit a file can hold, both are there when it is read.
The directory is the one thing that is not taken from the document: it is
written down, but the one in which the file is read counts, so a file may be
carried elsewhere. A limit that no file can hold is noticed before anything is
written.

Making a catalog reads a configuration and writes it down again. What was read
can be written, so the settings are afterwards what they were before, however
the file was worded.
-/

namespace Songbook

namespace Config

variable {config : Config}

/-- What the file of a configuration says, entry by entry. -/
def entries (config : Config) : Toml.Entries :=
  [("root", .string config.root),
    ("filter_prefix", .string config.filterPrefix)] ++
    config.resultLimit.toList.map fun n => ("result_limit", .integer (.ofNat n))

theorem fileLimit_eq {n : Nat} (h : n ≤ greatestLimit) :
    fileLimit n h = .ofNat n :=
  Int64.ofIntLE_eq_ofInt (Int.le_trans (by decide) (Int.natCast_nonneg n))
    (Int.ofNat_le.2 h)

theorem map_entry_linesOf
    (h : config.resultLimit.all (· ≤ greatestLimit) = true) :
    (linesOf config h).map Toml.Line.entry = config.entries := by
  obtain ⟨root, filterPrefix, resultLimit⟩ := config
  cases resultLimit with
  | none => rfl
  | some n =>
    have hn := fileLimit_eq (of_decide_eq_true h)
    show [_, _, ("result_limit", Toml.Value.integer (fileLimit n _))] = _
    rw [hn]
    rfl

/-- What a configuration is saved as says its entries and nothing else. -/
theorem ofText?_eq_entries {text : String} (h : config.save = .ok text) :
    Toml.ofText? text = some config.entries := by
  by_cases hlimit : config.resultLimit.all (· ≤ greatestLimit) = true
  · rw [save_eq_linesOf hlimit] at h
    rw [← Except.ok.inj h, Toml.ofText?_flatMap (nodup_keys_linesOf hlimit),
      map_entry_linesOf hlimit]
  · rw [save, if_neg hlimit] at h
    cases h

/-- Only the directory is not taken from the file. -/
theorem load_elsewhere (root elsewhere : String) (file : Option String) :
    load elsewhere file = (load root file).map fun config =>
      { config with root := elsewhere } := by
  cases file with
  | none => rfl
  | some text =>
    have hread : ofText? elsewhere text =
        (ofText? root text).map fun config =>
          { config with root := elsewhere } := by
      simp only [ofText?, Option.bind_eq_bind, Option.map_bind,
        Function.comp_def, Option.map_some]
    rw [load, load, hread]
    cases ofText? root text with
    | none => rfl
    | some config => rfl

theorem all_le_iff {limit : Option Nat} :
    limit.all (· ≤ greatestLimit) = true ↔ ∀ n ∈ limit, n ≤ greatestLimit := by
  simp only [Option.all_eq_true, decide_eq_true_eq, Option.mem_def]

theorem exists_save_of_le (h : ∀ n ∈ config.resultLimit, n ≤ greatestLimit) :
    ∃ text, config.save = .ok text :=
  ⟨_, save_eq_linesOf (all_le_iff.2 h)⟩

theorem save_of_lt {n : Nat} (hlimit : config.resultLimit = some n)
    (hn : greatestLimit < n) :
    config.save = .error .config := by
  rw [save, if_neg]
  intro h
  exact absurd (all_le_iff.1 h n hlimit) (Nat.not_le_of_lt hn)

end Config

namespace Cli

variable {catalog : Catalog} {config : Config} {table : Table}

theorem run_init_of_some (around : Surroundings)
    (hconfig : catalog.config = .ok config)
    (htable : catalog.table? = some table) :
    Command.init.run around catalog =
      (printLine ("Catalog already initialized at " ++ catalog.root),
        catalog) := by
  have hthere : catalog.isInitialized = true := congrArg Option.isSome htable
  refine Command.run_of_ok ?_
  rw [Command.action, Cli.init,
    Fallible.on_bind_of_ok (Fallible.on_get catalog), hconfig, ofCatalog_ok,
    Fallible.on_bind_of_ok (Fallible.on_liftM _ _), if_pos hthere,
    Fallible.on_pure]

/-- A configuration whose limit a file can hold is saved, the file says it
entry by entry, and it is loaded again in whatever directory the file is
found, which then is its root; saved where it belongs it is what the catalog
is told from then on. With a greater limit saving fails, and the catalog has
the file that it had. A catalog whose configuration reads can be made, or was,
and `init` leaves its configuration as it was, although it writes the file
anew where it makes the song table. -/
theorem settings_survive_saving :
    (∀ config : Config, (∀ n ∈ config.resultLimit, n ≤ Config.greatestLimit) →
      ∃ text, config.save = .ok text ∧ Toml.ofText? text = some config.entries ∧
        ∀ elsewhere, Config.load elsewhere (some text) =
          .ok ⟨elsewhere, config.filterPrefix, config.resultLimit⟩) ∧
    (∀ (catalog : Catalog) (filterPrefix : String) (limit : Option Nat),
      let saved := (Request.save ⟨catalog.root, filterPrefix, limit⟩).on catalog
      ((∀ n ∈ limit, n ≤ Config.greatestLimit) →
        saved.1 = .ok () ∧ saved.2.table? = catalog.table? ∧
          saved.2.config = .ok ⟨catalog.root, filterPrefix, limit⟩) ∧
      ∀ n ∈ limit, Config.greatestLimit < n →
        saved = (.error .config, catalog)) ∧
    ∀ (around : Surroundings) (catalog : Catalog) (config : Config),
      catalog.config = .ok config →
      let run := Command.init.run around catalog
      run.1.code = 0 ∧ run.2.isInitialized = true ∧ run.2.config = .ok config ∧
        (catalog.isInitialized = true → run.2 = catalog) ∧
        (catalog.isInitialized = false →
          ∃ text, config.save = .ok text ∧ run.2.configText = some text) := by
  have hsaved : ∀ {config : Config} {text : String},
      config.save = .ok text → ∀ elsewhere,
      Config.load elsewhere (some text) =
        .ok ⟨elsewhere, config.filterPrefix, config.resultLimit⟩ := by
    intro config text hsave elsewhere
    rw [Config.load_elsewhere config.root elsewhere, Config.load_save hsave]
    rfl
  refine ⟨fun config hlimit => ?_,
    fun catalog filterPrefix limit => ⟨fun hlimit => ?_, ?_⟩,
    fun around catalog config hconfig => ?_⟩
  · obtain ⟨text, hsave⟩ := Config.exists_save_of_le hlimit
    exact ⟨text, hsave, Config.ofText?_eq_entries hsave, hsaved hsave⟩
  · obtain ⟨text, hsave⟩ : ∃ text,
        (⟨catalog.root, filterPrefix, limit⟩ : Config).save = .ok text :=
      Config.exists_save_of_le hlimit
    rw [Request.on_save_of_ok hsave]
    exact ⟨rfl, rfl, hsaved hsave catalog.root⟩
  · intro n hn hgreater
    exact Request.on_save_of_error (Config.save_of_lt hn hgreater)
  · obtain ⟨text, hsave⟩ := Config.exists_save_of_load hconfig
    cases htable : catalog.table? with
    | some table =>
      have hthere : catalog.isInitialized = true :=
        congrArg Option.isSome htable
      rw [run_init_of_some around hconfig htable]
      refine ⟨rfl, hthere, hconfig, fun _ => rfl, fun h => ?_⟩
      rw [hthere] at h
      cases h
    | none =>
      rw [run_init_of_save around hconfig htable hsave]
      exact ⟨rfl, rfl, Catalog.config_of_save hconfig hsave _,
        fun h => absurd h (Catalog.not_isInitialized htable),
        fun _ => ⟨text, hsave, rfl⟩⟩

/-- A prefix that no form of quoted text holds as it is, next to the greatest
limit, is carried to another directory. One song more is too many to save. A
file worded by hand is written anew. -/
theorem settings_survive_saving_sample :
    (∃ text,
      (⟨"/old", "\"\"\"'''\\\r\n\t\x00", some 9223372036854775807⟩ :
        Config).save =
        .ok text ∧
      Config.load "/new" (some text) =
        .ok ⟨"/new", "\"\"\"'''\\\r\n\t\x00", some 9223372036854775807⟩) ∧
    (Request.save ⟨"/old", "", some 9223372036854775808⟩).on
      ⟨"/old", some "root = ''", none⟩ =
      (.error .config, ⟨"/old", some "root = ''", none⟩) ∧
    ∀ around : Surroundings,
      let worded : Catalog :=
        ⟨"/old", some "result_limit = 0x3 # songs\nroot = ''", none⟩
      let run := Command.init.run around worded
      worded.config = .ok ⟨"/old", "k", some 3⟩ ∧
        run.2.config = .ok ⟨"/old", "k", some 3⟩ ∧ run.2.configText =
          some
            "root = \"/old\"\nfilter_prefix = \"k\"\nresult_limit = 3\n" := by
  have hgreatest :
      ∀ n ∈ some 9223372036854775807, n ≤ Config.greatestLimit := by decide
  have hworded :
      (⟨"/old", some "result_limit = 0x3 # songs\nroot = ''", none⟩ :
        Catalog).config =
      .ok ⟨"/old", "k", some 3⟩ := by
    decide +kernel
  have hwritten : (⟨"/old", "k", some 3⟩ : Config).save =
      .ok "root = \"/old\"\nfilter_prefix = \"k\"\nresult_limit = 3\n" := by
    decide +kernel
  obtain ⟨hload, hrequest, hinit⟩ := settings_survive_saving
  refine ⟨?_, ?_, fun around => ⟨hworded, ?_⟩⟩
  · obtain ⟨text, hsave, -, hread⟩ :=
      hload ⟨"/old", "\"\"\"'''\\\r\n\t\x00",
        some 9223372036854775807⟩ hgreatest
    exact ⟨text, hsave, hread "/new"⟩
  · exact
      (hrequest ⟨"/old", some "root = ''", none⟩ ""
        (some 9223372036854775808)).2
      9223372036854775808 rfl (by decide)
  · obtain ⟨-, -, hconfig, -, hfile⟩ := hinit around _ _ hworded
    obtain ⟨text, hsave, htext⟩ := hfile rfl
    rw [hwritten] at hsave
    rw [Except.ok.inj hsave]
    exact ⟨hconfig, htext⟩

end Cli

end Songbook
