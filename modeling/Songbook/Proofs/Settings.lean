import Songbook.Proofs.Steps
import Songbook.Proofs.TomlLines

/-!
# Settings last

A configuration that was saved is loaded again as it was, whatever texts it
holds and whatever limit a file can say. The only step that writes the file
writes down what it has read, so no step changes the configuration of a
catalog. A step makes the song table only where the configuration reads, so
where there is a table that was made by a step, the configuration reads.
-/

namespace Songbook

namespace Config

variable {root text : String} {file : Option String} {config : Config}

theorem root_eq_of_load (h : load root file = .ok config) :
    config.root = root := by
  unfold load at h
  split at h
  · cases h
    rfl
  · split at h
    · next hread =>
      cases h
      simp only [ofText?, Option.bind_eq_bind, Option.bind_eq_some_iff] at hread
      obtain ⟨_, -, _, -, _, -, _, -, _, -, heq⟩ := hread
      cases heq
      rfl
    · cases h

/-- The line of a setting whose value is a text. -/
def textLineOf (name text : String) (h : Toml.IsBareKey name) : Toml.Line where
  key := name
  text := Toml.quote text.toList
  value := .string text
  isBareKey := h
  reads := Toml.reads_quote text

/-- A limit that a file can hold is a number of 64 bits there. -/
def fileLimit (n : Nat) (h : n ≤ greatestLimit) : Int64 :=
  Int64.ofIntLE n (Int.le_trans (by decide) (Int.natCast_nonneg n))
    (Int.ofNat_le.2 h)

theorem toInt_fileLimit {n : Nat} (h : n ≤ greatestLimit) :
    (fileLimit n h).toInt = n :=
  Int64.toInt_ofIntLE

/-- The line of a limit that a file can hold, if there is one. -/
def limitLines :
    (limit : Option Nat) → limit.all (· ≤ greatestLimit) = true → List Toml.Line
  | none, _ => []
  | some n, h => [{
      key := "result_limit"
      text := Nat.toDigits 10 n
      value := .integer (fileLimit n (of_decide_eq_true h))
      isBareKey := by decide
      reads := Toml.reads_toDigits (toInt_fileLimit _) }]

/-- The lines of the file for a configuration whose limit it can hold. -/
def linesOf (config : Config)
    (h : config.resultLimit.all (· ≤ greatestLimit) = true) : List Toml.Line :=
  textLineOf "root" config.root (by decide) ::
    textLineOf "filter_prefix" config.filterPrefix (by decide) ::
      limitLines config.resultLimit h

theorem save_eq_linesOf
    (h : config.resultLimit.all (· ≤ greatestLimit) = true) :
    config.save = .ok
      (String.ofList ((linesOf config h).flatMap Toml.Line.chars)) := by
  obtain ⟨root, filterPrefix, resultLimit⟩ := config
  have hlimit : limitLine resultLimit =
      (limitLines resultLimit h).flatMap Toml.Line.chars := by
    cases resultLimit with
    | none => rfl
    | some n => exact (List.append_nil _).symm
  rw [save, if_pos h, hlimit, linesOf, List.flatMap_cons, List.flatMap_cons,
    ← List.append_assoc]
  rfl

theorem nodup_keys_linesOf
    (h : config.resultLimit.all (· ≤ greatestLimit) = true) :
    ((linesOf config h).map Toml.Line.key).Nodup := by
  obtain ⟨root, filterPrefix, resultLimit⟩ := config
  cases resultLimit with
  | none =>
    show ["root", "filter_prefix"].Nodup
    decide
  | some n =>
    show ["root", "filter_prefix", "result_limit"].Nodup
    decide

theorem ofText?_save (h : config.save = .ok text) :
    ofText? config.root text = some config := by
  by_cases hlimit : config.resultLimit.all (· ≤ greatestLimit) = true
  · rw [save_eq_linesOf hlimit] at h
    rw [← Except.ok.inj h, ofText?,
      Toml.ofText?_flatMap (nodup_keys_linesOf hlimit)]
    obtain ⟨root, filterPrefix, resultLimit⟩ := config
    cases resultLimit with
    | none => rfl
    | some n =>
      have hread : limit?
          (.integer (fileLimit n (of_decide_eq_true hlimit))) = some n := by
        rw [limit?, toInt_fileLimit]
        rfl
      show ((limit? (.integer (fileLimit n _))).map some).bind _ = _
      rw [hread]
      rfl
  · rw [save, if_neg hlimit] at h
    cases h

theorem load_save (h : config.save = .ok text) :
    load config.root (some text) = .ok config := by
  rw [load, ofText?_save h]

end Config

/-! ## What steps make of the configuration -/

namespace Catalog

variable {catalog : Catalog} {config : Config} {error : CatalogError}
  {text : String} {table : Table}

theorem config_of_save (hconfig : catalog.config = .ok config)
    (hsave : config.save = .ok text) (table? : Option Table) :
    ({ catalog with configText := some text, table? } : Catalog).config =
      .ok config := by
  have hload := Config.load_save hsave
  rwa [Config.root_eq_of_load hconfig] at hload

end Catalog

end Songbook
