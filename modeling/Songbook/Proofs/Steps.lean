import Songbook.Catalog.Step
import Songbook.Proofs.Transactions

/-!
# What a step can do

A step makes the song table, changes the one that is there, or asks. When it
fails, the catalog is as it was, and each kind has its own reason for that: a
question changes nothing, a change is one statement or one transaction, and
making the table comes to writing the configuration only with a configuration
that was read, which can be written. `Catalog.Takes` says once what a step can
do, and what is proved of steps goes by its cases.
-/

namespace Songbook

/-! ## Changing the table -/

namespace Exchange

variable {α : Type}

/-- What is done on a connection changes the table by `f` as a whole or not at
all, and then answers with `a`. -/
structure Does (exchange : Exchange α) (f : Table → Except CatalogError Table)
    (a : α) : Prop where
  of_ok {table after : Table} : f table = .ok after →
    exchange.on (.ofTable table) = (.ok a, .ofTable after)
  of_error {table : Table} {error : CatalogError} : f table = .error error →
    exchange.on (.ofTable table) = (.error error, .ofTable table)

theorem does_change (f : Table → Except CatalogError Table) :
    (change f).Does f () :=
  ⟨fun h => on_change_of_ok h, fun h => on_change_of_error h⟩

theorem does_addAll (songs : List Song) :
    (addAll songs).Does (·.addAll songs) songs.length :=
  ⟨on_addAll_of_ok, on_addAll_of_error⟩

end Exchange

theorem Catalog.not_isInitialized {catalog : Catalog}
    (htable : catalog.table? = none) :
    ¬catalog.isInitialized = true := by
  rw [Catalog.isInitialized, htable]
  exact Bool.noConfusion

namespace Request

variable {α : Type} {exchange : Exchange α} {catalog : Catalog} {table : Table}
  {connection : Connection} {answer : Except CatalogError α}

theorem on_connect (htable : catalog.table? = some table)
    (h : exchange.on (.ofTable table) = (answer, connection)) :
    (connect exchange).on catalog =
      (answer, { catalog with table? := some connection.closed }) := by
  obtain ⟨root, configText, table?⟩ := catalog
  cases htable
  show ((exchange.on (.ofTable table)).1, Catalog.mk root configText
    (some (exchange.on (.ofTable table)).2.closed)) = _
  rw [h]

theorem on_connect_of_none (htable : catalog.table? = none) :
    (connect exchange).on catalog =
      (.error (.notInitialized catalog.root), catalog) := by
  obtain ⟨root, configText, table?⟩ := catalog
  cases htable
  rfl

theorem on_connect_bind_of_ok {f : Table → Except CatalogError Table} {a : α}
    {after : Table} {β : Type} {next : α → β} (hdoes : exchange.Does f a)
    (htable : catalog.table? = some table) (h : f table = .ok after) :
    (connect exchange >>= fun a => pure (next a)).on catalog =
      (.ok (next a), { catalog with table? := some after }) := by
  rw [Fallible.on_bind_of_ok (on_connect htable (hdoes.of_ok h)),
    Fallible.on_pure]
  rfl

theorem on_connect_bind_of_error {f : Table → Except CatalogError Table} {a : α}
    {error : CatalogError} {β : Type} {next : α → β} (hdoes : exchange.Does f a)
    (htable : catalog.table? = some table) (h : f table = .error error) :
    (connect exchange >>= fun a => pure (next a)).on catalog =
      (.error error, catalog) := by
  rw [Fallible.on_bind_of_error (on_connect htable (hdoes.of_error h))]
  show (_, { catalog with table? := some table }) = _
  rw [← htable]

/-! ## Making the table -/

variable {config : Config} {error : CatalogError} {text : String}

theorem on_create_of_error (hconfig : catalog.config = .error error) :
    create.on catalog = (.error error, catalog) := by
  rw [create, Fallible.on_bind_of_ok (Fallible.on_get catalog), hconfig,
    Fallible.on_bind_of_error (Fallible.on_liftM _ _)]

theorem on_create_of_some (hconfig : catalog.config = .ok config)
    (htable : catalog.table? = some table) :
    create.on catalog =
      (.error (.alreadyInitialized catalog.root), catalog) := by
  have hthere : catalog.isInitialized = true := congrArg Option.isSome htable
  rw [create, Fallible.on_bind_of_ok (Fallible.on_get catalog), hconfig,
    Fallible.on_bind_of_ok (Fallible.on_liftM _ _), if_pos hthere]
  rfl

theorem on_save_of_ok (hsave : config.save = .ok text) :
    (save config).on catalog =
      (.ok (), { catalog with configText := some text }) := by
  rw [save, Fallible.on_bind_of_ok (Fallible.on_get catalog), hsave]
  rfl

theorem on_save_of_error (hsave : config.save = .error error) :
    (save config).on catalog = (.error error, catalog) := by
  rw [save, Fallible.on_bind_of_ok (Fallible.on_get catalog), hsave,
    Fallible.on_bind_of_error (Fallible.on_liftM _ _)]

theorem on_create_of_none (hconfig : catalog.config = .ok config)
    (htable : catalog.table? = none) (hsave : config.save = .ok text) :
    create.on catalog =
      (.ok (),
        { catalog with configText := some text, table? := some .empty }) := by
  rw [create, Fallible.on_bind_of_ok (Fallible.on_get catalog), hconfig,
    Fallible.on_bind_of_ok (Fallible.on_liftM _ _),
    if_neg (Catalog.not_isInitialized htable)]
  exact on_save_of_ok hsave

end Request

/-! ## Steps -/

namespace Step

/-- How a step changes the song table and what it answers then, if it is one
that changes it. -/
def change? : Step → Option ((Table → Except CatalogError Table) × Answer)
  | .add song => some ((·.add song), .done)
  | .addAll songs => some ((·.addAll songs), .added songs.length)
  | .setVisible id value => some ((·.setVisible id value), .done)
  | .markQueued id at_ => some ((·.markQueued id at_), .done)
  | .init | .isInitialized | .settings | .get _ | .all | .visible | .titles
  | .filter .. | .search _ => none

/-- Whether a step only asks. -/
def IsQuestion (step : Step) : Prop :=
  step ≠ .init ∧ step.change? = none

/-- A step that changes the table does so by an exchange on a connection to
it. -/
theorem exists_exchange {step : Step} {f : Table → Except CatalogError Table}
    {answer : Answer} (h : step.change? = some (f, answer)) :
    ∃ (α : Type) (exchange : Exchange α) (a : α) (next : α → Answer),
      exchange.Does f a ∧
      next a = answer ∧ step.request = (Request.connect exchange >>= fun a =>
        pure (next a)) := by
  cases step with
  | add | setVisible | markQueued =>
    cases h
    exact ⟨_, _, (), fun _ => .done, Exchange.does_change _, rfl, rfl⟩
  | addAll songs =>
    cases h
    exact ⟨_, _, _, .added, Exchange.does_addAll songs, rfl, rfl⟩
  | _ => cases h

theorem exists_question {step : Step} (h : step.IsQuestion) :
    ∃ question, step.request = Request.ask question := by
  cases step with
  | init => exact absurd rfl h.1
  | add | addAll | setVisible | markQueued => cases h.2
  | _ => exact ⟨_, rfl⟩

end Step

namespace Catalog

variable {catalog : Catalog} {step : Step}
  {f : Table → Except CatalogError Table} {answer : Answer}
  {table after : Table} {error : CatalogError}

theorem perform_of_ok (hstep : step.change? = some (f, answer))
    (htable : catalog.table? = some table) (h : f table = .ok after) :
    catalog.perform step =
      (.ok answer, { catalog with table? := some after }) := by
  obtain ⟨α, exchange, a, next, hdoes, rfl, hrequest⟩ :=
    Step.exists_exchange hstep
  rw [perform, hrequest, Request.on_connect_bind_of_ok hdoes htable h]

theorem perform_of_error (hstep : step.change? = some (f, answer))
    (htable : catalog.table? = some table) (h : f table = .error error) :
    catalog.perform step = (.error error, catalog) := by
  obtain ⟨α, exchange, a, next, hdoes, rfl, hrequest⟩ :=
    Step.exists_exchange hstep
  rw [perform, hrequest, Request.on_connect_bind_of_error hdoes htable h]

theorem perform_of_none (hstep : step.change? = some (f, answer))
    (htable : catalog.table? = none) :
    catalog.perform step =
      (.error (.notInitialized catalog.root), catalog) := by
  obtain ⟨α, exchange, a, next, hdoes, rfl, hrequest⟩ :=
    Step.exists_exchange hstep
  rw [perform, hrequest,
    Fallible.on_bind_of_error (Request.on_connect_of_none htable)]

/-- How a step can go: what it answers and the catalog after it. -/
inductive Takes (catalog : Catalog) :
    Step → Except CatalogError Answer → Catalog → Prop
  /-- A step that fails leaves the catalog as it is. -/
  | failed {step : Step} (error : CatalogError) :
      catalog.Takes step (.error error) catalog
  | asked {step : Step} (answer : Answer) (hstep : step.IsQuestion) :
    catalog.Takes step (.ok answer) catalog
  /-- The table is made where there was none. -/
  | created (text : String) (htable : catalog.table? = none) :
    catalog.Takes .init (.ok .done)
      { catalog with configText := some text, table? := some .empty }
  | changed {step : Step} {f : Table → Except CatalogError Table}
    {answer : Answer} {table after : Table}
    (hstep : step.change? = some (f, answer))
    (htable : catalog.table? = some table) (h : f table = .ok after) :
    catalog.Takes step (.ok answer) { catalog with table? := some after }

theorem perform_init (catalog : Catalog) : catalog.perform .init =
    (Request.create >>= fun _ => pure Answer.done).on catalog :=
  rfl

theorem takes_init (catalog : Catalog) :
    catalog.Takes .init (catalog.perform .init).1
      (catalog.perform .init).2 := by
  rw [perform_init]
  cases hconfig : catalog.config with
  | error error =>
    rw [Fallible.on_bind_of_error (Request.on_create_of_error hconfig)]
    exact .failed error
  | ok config =>
    cases htable : catalog.table? with
    | some table =>
      rw [Fallible.on_bind_of_error (Request.on_create_of_some hconfig htable)]
      exact .failed _
    | none =>
      -- The table is there by the time the configuration is written, so that
      -- must not fail.
      obtain ⟨text, hsave⟩ := Config.exists_save_of_load hconfig
      rw [Fallible.on_bind_of_ok
        (Request.on_create_of_none hconfig htable hsave)]
      exact .created text htable

theorem takes_perform (catalog : Catalog) (step : Step) :
    catalog.Takes step (catalog.perform step).1 (catalog.perform step).2 := by
  cases hstep : step.change? with
  | some change =>
    obtain ⟨f, answer⟩ := change
    cases htable : catalog.table? with
    | none =>
      rw [perform_of_none hstep htable]
      exact .failed _
    | some table =>
      cases h : f table with
      | ok after =>
        rw [perform_of_ok hstep htable h]
        exact .changed hstep htable h
      | error error =>
        rw [perform_of_error hstep htable h]
        exact .failed error
  | none =>
    by_cases hinit : step = .init
    · subst hinit
      exact takes_init catalog
    · obtain ⟨question, hrequest⟩ := Step.exists_question ⟨hinit, hstep⟩
      have hperform : catalog.perform step = (question catalog, catalog) := by
        rw [perform, hrequest]
        rfl
      rw [hperform]
      cases question catalog with
      | ok answer => exact .asked answer ⟨hinit, hstep⟩
      | error error => exact .failed error

theorem eq_of_perform_error (h : (catalog.perform step).1 = .error error) :
    (catalog.perform step).2 = catalog := by
  have htakes := takes_perform catalog step
  rw [h] at htakes
  generalize (catalog.perform step).2 = next at htakes
  cases htakes
  rfl

end Catalog

/-! ## Steps one after the other -/

/-- Steps with what they answered. -/
abbrev Log := List (Step × Except CatalogError Answer)

namespace Log

/-- The steps of a log that succeeded. -/
def done (log : Log) : List Step :=
  (log.filter fun entry => entry.2.isOk).map Prod.fst

/-- Whether no step of a log failed. -/
def AllDone (log : Log) : Prop :=
  ∀ entry ∈ log, entry.2.isOk = true

variable {log : Log} {step : Step} {result : Except CatalogError Answer}

theorem done_cons :
    done ((step, result) :: log) =
      (if result.isOk then [step] else []) ++ log.done := by
  rw [done, List.filter_cons]
  split <;> rfl

theorem allDone_cons_iff :
    AllDone ((step, result) :: log) ↔ result.isOk = true ∧ log.AllDone :=
  List.forall_mem_cons

end Log

namespace Catalog

variable {catalog next : Catalog} {step : Step}
  {result : Except CatalogError Answer}

/-- Takes steps one after the other, whether they succeed or fail: what they
answer, and the catalog after them. -/
def run (catalog : Catalog) : List Step → Log × Catalog
  | [] => ([], catalog)
  | step :: steps =>
    let (answer, next) := catalog.perform step
    let (log, after) := next.run steps
    ((step, answer) :: log, after)

theorem run_cons (steps : List Step)
    (h : catalog.perform step = (result, next)) :
    catalog.run (step :: steps) =
      ((step, result) :: (next.run steps).1, (next.run steps).2) := by
  rw [run, h]

end Catalog

end Songbook
