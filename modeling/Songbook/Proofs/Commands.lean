import Songbook.Cli.Run
import Songbook.Proofs.Outcomes
import Songbook.Proofs.QueryStrings
import Songbook.Proofs.Steps

/-!
# Commands one after the other

A command that does not end well leaves the catalog as it was. What a command
does before it comes to the catalog is to look: at the configuration, the song
table, its words, a file. Then it makes one request, the last thing that can
fail, and a request that fails leaves no trace. So no command changes the
catalog but on the way to an answer without a failure, and those that only
look never do. A filter that was refused says so in its answer and not by
stopping, which makes no difference to the catalog, because it is among those
that only look.
-/

namespace Songbook

/-! ## Acts that change nothing, or nothing in vain -/

namespace Fallible

variable {ε ε' σ α β : Type}

/-- Whether something leaves the state as it is, whatever comes of it. -/
def Still (act : Fallible ε σ α) : Prop :=
  ∀ state, (act.on state).2 = state

/-- Whether something changes the state only on the way to an answer of some
kind. -/
def ChangesOnlyFor (act : Fallible ε σ α) (p : α → Prop) : Prop :=
  ∀ state, (act.on state).2 = state ∨ ∃ a, (act.on state).1 = .ok a ∧ p a

variable {act : Fallible ε σ α} {next : α → Fallible ε σ β} {p : β → Prop}

theorem still_pure (a : α) : (pure a : Fallible ε σ α).Still :=
  fun _ => rfl

theorem still_get : (get : Fallible ε σ σ).Still :=
  fun _ => rfl

theorem still_liftM (result : Except ε α) :
    (liftM result : Fallible ε σ α).Still :=
  fun _ => rfl

theorem Still.changesOnlyFor {act : Fallible ε σ β} (h : act.Still) :
    act.ChangesOnlyFor p :=
  fun state => .inl (h state)

/-- What goes on from something that changes nothing may change what it likes.
-/
theorem Still.bind (h : act.Still) (hnext : ∀ a, (next a).ChangesOnlyFor p) :
    (act >>= next).ChangesOnlyFor p := by
  intro state
  have hact : act.on state = ((act.on state).1, state) := Prod.ext rfl (h state)
  cases hresult : (act.on state).1 with
  | ok a =>
    rw [on_bind_of_ok (hresult ▸ hact)]
    exact hnext a state
  | error e =>
    rw [on_bind_of_error (hresult ▸ hact)]
    exact .inl rfl

/-- What changes the state in the last step that can fail does not change it
in vain. -/
theorem ChangesOnlyFor.bind_pure {q : α → Prop} {f : α → β}
    (h : act.ChangesOnlyFor q) (hf : ∀ a, p (f a)) :
    (act >>= fun a => pure (f a)).ChangesOnlyFor p := by
  intro state
  cases hresult : act.on state with
  | mk result after =>
    cases result with
    | ok a =>
      rw [on_bind_of_ok hresult]
      exact .inr ⟨f a, rfl, hf a⟩
    | error e =>
      rw [on_bind_of_error hresult]
      rcases h state with hsame | ⟨a, ha, -⟩
      · rw [hresult] at hsame
        exact .inl hsame
      · rw [hresult] at ha
        cases ha

theorem on_adapt (f : ε → ε') (act : Fallible ε σ α) (state : σ) :
    on (ExceptT.adapt f act) state =
      ((act.on state).1.mapError f, (act.on state).2) :=
  rfl

theorem ChangesOnlyFor.adapt {q : α → Prop} (h : act.ChangesOnlyFor q)
    (f : ε → ε') :
    ChangesOnlyFor (ExceptT.adapt f act) q := by
  intro state
  rw [on_adapt]
  rcases h state with hsame | ⟨a, ha, hq⟩
  · exact .inl hsame
  · rw [ha]
    exact .inr ⟨a, rfl, hq⟩

end Fallible

namespace Request

open Fallible

variable {α : Type}

theorem changesOnlyFor_connect {exchange : Exchange α}
    {f : Table → Except CatalogError Table} {a : α}
    (hdoes : exchange.Does f a) :
    (connect exchange).ChangesOnlyFor fun _ => True := by
  intro catalog
  cases htable : catalog.table? with
  | none =>
    rw [on_connect_of_none htable]
    exact .inl rfl
  | some table =>
    cases h : f table with
    | ok after =>
      rw [on_connect htable (hdoes.of_ok h)]
      exact .inr ⟨a, rfl, trivial⟩
    | error error =>
      rw [on_connect htable (hdoes.of_error h)]
      refine .inl ?_
      show { catalog with table? := some table } = catalog
      rw [← htable]

theorem changesOnlyFor_create : create.ChangesOnlyFor fun _ => True := by
  intro catalog
  cases hconfig : catalog.config with
  | error error =>
    rw [on_create_of_error hconfig]
    exact .inl rfl
  | ok config =>
    cases htable : catalog.table? with
    | some table =>
      rw [on_create_of_some hconfig htable]
      exact .inl rfl
    | none =>
      obtain ⟨text, hsave⟩ := Config.exists_save_of_load hconfig
      rw [on_create_of_none hconfig htable hsave]
      exact .inr ⟨(), rfl, trivial⟩

end Request

namespace Cli

open Fallible Songbook.Filter

/-! ## One command -/

theorem Action.still_find {α : Type} (attempt : Catalog → Attempt α) :
    (Action.find attempt).Still :=
  fun _ => rfl

/-- Whether a command only asks. -/
def Command.IsQuestion : Command → Prop
  | .list _ | .filter .. | .search .. | .details _ => True
  | .init | .importFile .. | .add .. | .setVisible .. | .queued _ => False

instance (command : Command) : Decidable command.IsQuestion :=
  match command with
  | .list _ | .filter .. | .search .. | .details _ => isTrue trivial
  | .init | .importFile .. | .add .. | .setVisible .. | .queued _ => isFalse id

variable {around : Surroundings} {command : Command} {catalog : Catalog}

theorem Command.still_of_isQuestion (h : command.IsQuestion) :
    (command.action around).Still := by
  cases command with
  | list | filter | search | details => exact Action.still_find _
  | init | importFile | add | setVisible | queued => cases h

/-- A command changes the catalog only on the way to an answer that tells no
failure. -/
theorem Command.changesOnlyFor_success (around : Surroundings)
    (command : Command) :
    (command.action around).ChangesOnlyFor fun response =>
      response.failure = none := by
  cases command with
  | list | filter | search | details =>
    exact (Action.still_find _).changesOnlyFor
  | init =>
    refine still_get.bind fun catalog => (still_liftM _).bind fun _ => ?_
    split
    · exact (still_pure _).changesOnlyFor
    · exact (Request.changesOnlyFor_create.adapt _).bind_pure fun _ => rfl
  | importFile path quiet =>
    refine (Action.still_find _).bind fun _ =>
      (still_liftM _).bind fun songs => ?_
    refine ((Request.changesOnlyFor_connect (Exchange.does_addAll songs)).adapt
      _).bind_pure ?_
    intro count
    split <;> rfl
  | add title album artist track time =>
    refine (Action.still_find _).bind fun _ =>
      (still_liftM _).bind fun seconds => ?_
    exact
      ((Request.changesOnlyFor_connect (Exchange.does_change _)).adapt
        _).bind_pure fun _ => rfl
  | setVisible id visible =>
    refine (Action.still_find _).bind fun _ => (still_liftM _).bind fun id => ?_
    exact
      ((Request.changesOnlyFor_connect (Exchange.does_change _)).adapt
        _).bind_pure fun _ => rfl
  | queued id =>
    refine (Action.still_find _).bind fun _ => (still_liftM _).bind fun id => ?_
    exact
      ((Request.changesOnlyFor_connect (Exchange.does_change _)).adapt
        _).bind_pure fun _ => rfl

theorem Command.run_snd (around : Surroundings) (catalog : Catalog)
    (command : Command) :
    (command.run around catalog).2 =
      ((command.action around).on catalog).2 := by
  unfold Command.run
  split
  · next h => rw [h]
  · next h => rw [h]

theorem Command.run_fst_of_ok {response : Response}
    (h : ((command.action around).on catalog).1 = .ok response) :
    (command.run around catalog).1 = response := by
  unfold Command.run
  split
  · next heq =>
    rw [heq] at h
    exact Except.ok.inj h
  · next heq =>
    rw [heq] at h
    cases h

theorem Command.run_of_isQuestion (h : command.IsQuestion) :
    (command.run around catalog).2 = catalog := by
  rw [Command.run_snd]
  exact Command.still_of_isQuestion h catalog

/-- A command that ends with a code other than zero leaves the catalog as it
was. -/
theorem Command.run_of_code_ne_zero
    (h : (command.run around catalog).1.code ≠ 0) :
    (command.run around catalog).2 = catalog := by
  rcases Command.changesOnlyFor_success around command catalog with hsame |
    ⟨response, hok, hnone⟩
  · rw [Command.run_snd]
    exact hsame
  · rw [Command.run_fst_of_ok hok, Response.code, hnone] at h
    exact absurd rfl h

/-! ## Many commands -/

/-- A command as it is called: the words that ask for it, and what it finds
around it. -/
structure Call where
  around : Surroundings
  words : List String
  command : Command
  accepted : Command.ofWords words = .ok command

/-- Carries out a call. -/
def Call.run (catalog : Catalog) (call : Call) : Response × Catalog :=
  call.command.run call.around catalog

/-- Carries out commands one after the other, however they end: what they say,
and the catalog after them. -/
def runCalls (catalog : Catalog) : List Call → List Response × Catalog
  | [] => ([], catalog)
  | call :: calls =>
    let (response, next) := call.run catalog
    let (responses, after) := runCalls next calls
    (response :: responses, after)

/-- Whether a call may leave a trace: it does more than ask, and ends well. -/
def Call.Counts (catalog : Catalog) (call : Call) : Prop :=
  ¬call.command.IsQuestion ∧ (call.run catalog).1.code = 0

instance (catalog : Catalog) (call : Call) : Decidable (call.Counts catalog) :=
  inferInstanceAs (Decidable (_ ∧ _))

/-- The calls that may leave a trace. -/
def countingCalls (catalog : Catalog) : List Call → List Call
  | [] => []
  | call :: calls =>
    let rest := countingCalls (call.run catalog).2 calls
    if call.Counts catalog then call :: rest else rest

variable {call : Call}

theorem Call.run_of_not_counts (h : ¬call.Counts catalog) :
    (call.run catalog).2 = catalog := by
  by_cases hquestion : call.command.IsQuestion
  · exact Command.run_of_isQuestion hquestion
  · exact Command.run_of_code_ne_zero fun hcode => h ⟨hquestion, hcode⟩

theorem runCalls_cons (catalog : Catalog) (call : Call) (calls : List Call) :
    runCalls catalog (call :: calls) = ((call.run catalog).1 ::
      (runCalls (call.run catalog).2 calls).1,
      (runCalls (call.run catalog).2 calls).2) :=
  rfl

theorem runCalls_concat_snd (catalog : Catalog) (calls : List Call)
    (call : Call) :
    (runCalls catalog (calls ++ [call])).2 =
      (call.run (runCalls catalog calls).2).2 := by
  induction calls generalizing catalog with
  | nil => rfl
  | cons first calls ih =>
    rw [List.cons_append, runCalls_cons, runCalls_cons]
    exact ih _

/-- Without the calls that leave no trace the others end as well as they did,
and with the same catalog. -/
theorem runCalls_countingCalls (catalog : Catalog) (calls : List Call) :
    (∀ response ∈ (runCalls catalog (countingCalls catalog calls)).1,
      response.code = 0) ∧
      (runCalls catalog (countingCalls catalog calls)).2 =
        (runCalls catalog calls).2 := by
  induction calls generalizing catalog with
  | nil => exact ⟨fun _ h => absurd h List.not_mem_nil, rfl⟩
  | cons call calls ih =>
    have hrest := ih (call.run catalog).2
    rw [countingCalls, runCalls_cons]
    split
    · next h =>
      rw [runCalls_cons]
      exact ⟨List.forall_mem_cons.2 ⟨h.2, hrest.1⟩, hrest.2⟩
    · next h =>
      rw [Call.run_of_not_counts h] at hrest ⊢
      exact hrest

/-! ## What a filter says -/

section Filter

variable {config : Config} {table : Table}

theorem opened_eq (hconfig : catalog.config = .ok config)
    (htable : catalog.table? = some table) :
    opened catalog = .ok (config, table) := by
  rw [opened, hconfig, Catalog.table, htable]
  rfl

/-- A filter whose criteria read and whose catalog is there reports what comes
of it. -/
theorem run_filter_eq (hconfig : catalog.config = .ok config)
    (htable : catalog.table? = some table) {criteria : List String}
    {query address : Option String} {explain : Bool} {format : Format}
    {form : Form} (hform : criteriaForm criteria query = .ok form) :
    let place := address.getD config.filterPrefix
    let response := report config format (catalog.filter form place around.now)
    (Command.filter criteria query address explain format).run around catalog =
      ({ response with note :=
          (if explain then explanation form place around.now.date else "") ++
            response.note },
        catalog) := by
  intro place response
  have hfilter :
      Cli.filter around catalog criteria query address explain format =
      .ok { response with note :=
        (if explain then explanation form place around.now.date else "") ++
          response.note } := by
    rw [Cli.filter, hform, opened_eq hconfig htable]
    rfl
  have hon :
      ((Command.filter criteria query address explain format).action around).on
          catalog =
        (Cli.filter around catalog criteria query address explain format,
        catalog) := rfl
  rw [Command.run, hon, hfilter]

/-- What a filter says, with an explanation before it or none, when its form
reads to `result` and `outcome` comes of it. -/
inductive Tells (explained : String) :
    Except SchemaFault Built → Except CatalogError Outcome → Response → Prop
  | malformed {fault : SchemaFault} {response : Response}
    (hcode : response.code = 1) (hout : response.out = "")
    (herr : response.err =
      "Error: " ++ ("Malformed filter: " ++ fault.message) ++ "\n") :
    Tells explained (.error fault) (.error (.malformedFilter fault)) response
  | rejected {built : Built} {response : Response} (herrors : built.errors ≠ [])
    (hcode : response.code = 2) (hout : response.out = "")
    (herr : response.err =
      explained ++ String.join (built.errors.map Failure.rejectionLine)) :
    Tells explained (.ok built) (.ok (.rejected built.errors)) response
  | shown {built : Built} {outcome : Outcome} {response : Response}
    (herrors : built.errors = [])
    (houtcome : ∀ errors, outcome ≠ .rejected errors)
    (hcode : response.code = 0) :
    Tells explained (.ok built) (.ok outcome) response

namespace Tells

variable {explained : String} {result : Except SchemaFault Built}
  {outcome : Except CatalogError Outcome} {response : Response}

theorem code_eq_two_iff (h : Tells explained result outcome response) :
    response.code = 2 ↔ ∃ errors, outcome = .ok (.rejected errors) := by
  cases h with
  | malformed hcode => simp [hcode]
  | rejected _ hcode => simp [hcode]
  | shown _ houtcome hcode => simp [hcode, houtcome]

theorem code_eq_one_iff (h : Tells explained result outcome response) :
    response.code = 1 ↔ ∃ fault, result = .error fault := by
  cases h with
  | malformed hcode => simp [hcode]
  | rejected _ hcode => simp [hcode]
  | shown _ _ hcode => simp [hcode]

theorem code_eq_zero_iff (h : Tells explained result outcome response) :
    response.code = 0 ↔ ∃ built, result = .ok built ∧ built.errors = [] := by
  cases h with
  | malformed hcode => simp [hcode]
  | rejected herrors hcode => simp [hcode, herrors]
  | shown herrors _ hcode => simp [hcode, herrors]

theorem of_rejected {errors : List OperandError}
    (h : Tells explained result outcome response)
    (houtcome : outcome = .ok (.rejected errors)) : response.out = "" ∧
      (∃ built, result = .ok built ∧ errors = built.errors) ∧
      response.err =
        explained ++ String.join (errors.map Failure.rejectionLine) := by
  cases h with
  | malformed => cases houtcome
  | @rejected built _ _ _ hout herr =>
    cases houtcome
    exact ⟨hout, ⟨built, rfl, rfl⟩, herr⟩
  | shown _ hne => exact absurd (Except.ok.inj houtcome) (hne errors)

theorem of_malformed {fault : SchemaFault}
    (h : Tells explained result outcome response)
    (hresult : result = .error fault) : response.out = "" ∧
      response.err =
        "Error: " ++ ("Malformed filter: " ++ fault.message) ++ "\n" := by
  cases h with
  | malformed _ hout herr =>
    cases hresult
    exact ⟨hout, herr⟩
  | rejected => cases hresult
  | shown => cases hresult

end Tells

theorem run_filter_tells (hconfig : catalog.config = .ok config)
    (htable : catalog.table? = some table) {criteria : List String}
    {query address : Option String} {explain : Bool} {format : Format}
    {form : Form} (hform : criteriaForm criteria query = .ok form) :
    let place := address.getD config.filterPrefix
    Tells (if explain then explanation form place around.now.date else "")
      (build form place around.now.date) (catalog.filter form place around.now)
      ((Command.filter criteria query address explain format).run around
        catalog).1 := by
  intro place
  have hlisted : catalog.table.map Table.visible = .ok table.visible := by
    rw [Catalog.table, htable]
    rfl
  rw [run_filter_eq hconfig htable hform, Catalog.filter, hlisted]
  rcases run_cases form place around.now with ⟨fault, hbuild, hrun⟩ |
    ⟨built, hbuild, he, hrun⟩ |
    ⟨built, hbuild, he, -, hrun⟩ | ⟨built, node, hbuild, he, -, -, hrun⟩
  · rw [hrun, hbuild, explanation, hbuild, ite_self]
    exact .malformed rfl rfl String.empty_append
  · rw [hrun, hbuild]
    refine .rejected he rfl rfl ?_
    show _ ++ "" ++ _ = _
    rw [String.append_empty]
    rfl
  · rw [hrun, hbuild]
    exact .shown he (fun _ => Outcome.noConfusion) rfl
  · rw [hrun, hbuild]
    exact .shown he (fun _ => Outcome.noConfusion) rfl

end Filter

/-- Whatever commands are carried out from an empty directory, those that end
with a code other than zero leave the catalog as it was, and so do those that
only ask, however they end. So the catalog is the one that the other commands
would have made alone, and they would all have ended well. On a catalog that
is there and can be read, a filter whose criteria all have an equals sign ends
in one of three ways, explained or not: with code 2 when operands did not
read, nothing printed and a line for each of them, in the order in which they
were read; with code 1 when the form has a fault, nothing printed and the
fault said; and with code 0 otherwise. What is said is what the command says:
where a log is written to the same place, its lines are not counted. -/
theorem commands_leave_no_trace :
    (∀ (root : String) (calls : List Call),
      (∀ before call after, calls = before ++ call :: after →
        let catalog := (runCalls (.atRoot root) before).2
        let next := (runCalls (.atRoot root) (before ++ [call])).2
        ((call.run catalog).1.code ≠ 0 → next = catalog) ∧
          (call.command.IsQuestion → next = catalog)) ∧
      let counting := countingCalls (.atRoot root) calls
      (∀ response ∈ (runCalls (.atRoot root) counting).1, response.code = 0) ∧
        (runCalls (.atRoot root) counting).2 =
          (runCalls (.atRoot root) calls).2) ∧
    ∀ (around : Surroundings) (catalog : Catalog) (config : Config)
      (table : Table) (criteria : List String) (query address : Option String)
      (explain : Bool) (format : Format),
      catalog.config = .ok config → catalog.table? = some table →
      (∀ word ∈ criteria, '=' ∈ word.toList) →
      ∃ pairs, List.Forall₂ IsCriterion criteria pairs ∧
        let form := (query.elim Form.empty Form.ofQuery).insertAll pairs
        let place := address.getD config.filterPrefix
        let response :=
          ((Command.filter criteria query address explain format).run
            around catalog).1
        (response.code = 2 ↔ ∃ errors,
          catalog.filter form place around.now = .ok (.rejected errors)) ∧
        (∀ errors,
          catalog.filter form place around.now = .ok (.rejected errors) →
          response.out = "" ∧
          (∃ built, build form place around.now.date = .ok built ∧
            errors = built.errors) ∧
          response.err =
            (if explain then explanation form place around.now.date else "") ++
            String.join (errors.map fun error =>
              "Invalid value: " ++
                (error.address ++ ": " ++ error.error.message) ++ "\n")) ∧
        (response.code = 1 ↔
          ∃ fault, build form place around.now.date = .error fault) ∧
        (∀ fault, build form place around.now.date = .error fault →
          response.out = "" ∧
          response.err =
            "Error: " ++ ("Malformed filter: " ++ fault.message) ++ "\n") ∧
        (response.code = 0 ↔
          ∃ built, build form place around.now.date = .ok built ∧
            built.errors = []) := by
  refine ⟨fun root calls =>
    ⟨fun before call after _ => ?_, runCalls_countingCalls _ calls⟩, ?_⟩
  · intro catalog next
    have hnext : next = (call.run catalog).2 :=
      runCalls_concat_snd _ before call
    rw [hnext]
    exact ⟨Command.run_of_code_ne_zero, Command.run_of_isQuestion⟩
  · intro around catalog config table criteria query address explain format
      hconfig htable hcriteria
    obtain ⟨pairs, hpairs⟩ := exists_forall₂ fun word hword =>
      exists_isCriterion_iff.2 (hcriteria word hword)
    refine ⟨pairs, hpairs, ?_⟩
    intro form place response
    have hform : criteriaForm criteria query = .ok form := by
      have hread : criteria.mapM criterion = .ok pairs :=
        mapM_eq_ok_iff.2 (hpairs.imp fun _ _ => IsCriterion.criterion)
      rw [criteriaForm, hread]
      rfl
    have htells :
        Tells (if explain then explanation form place around.now.date else "")
        (build form place around.now.date)
          (catalog.filter form place around.now) response :=
      run_filter_tells hconfig htable hform
    exact ⟨htells.code_eq_two_iff, fun errors => htells.of_rejected,
      htells.code_eq_one_iff,
      fun fault => htells.of_malformed, htells.code_eq_zero_iff⟩

/-- An operand that does not read ends an explained filter with the key it was
read from. -/
theorem commands_leave_no_trace_sample :
    let around : Surroundings := ⟨fun _ => none, .epoch, fun _ => ⟨0⟩⟩
    let catalog : Catalog := ⟨"/music", none, some .empty⟩
    let response :=
      ((Command.filter ["k=time", "k_r=lte",
        "k_f0=x"] none none true .table).run
      around catalog).1
    response.code = 2 ∧ response.out = "" ∧
      response.err =
        "Filter: (none)\nInvalid value: k_f0: invalid duration: 'x'\n" := by
  intro around catalog response
  obtain ⟨-, hfilters⟩ := commands_leave_no_trace
  obtain ⟨pairs, hpairs, htwo, hrejected, -⟩ :=
    hfilters around catalog (.ofRoot "/music") .empty
    ["k=time", "k_r=lte", "k_f0=x"] none none true .table rfl rfl (by decide)
  have hread : ["k=time", "k_r=lte", "k_f0=x"].mapM criterion = .ok pairs :=
    mapM_eq_ok_iff.2 (hpairs.imp fun _ _ => IsCriterion.criterion)
  obtain rfl : [("k", "time"), ("k_r", "lte"), ("k_f0", "x")] = pairs :=
    Except.ok.inj hread
  have houtcome : catalog.filter
      ((none.elim Form.empty Form.ofQuery).insertAll [("k", "time"),
        ("k_r", "lte"), ("k_f0", "x")])
      "k" around.now = .ok (.rejected [⟨"k_f0", .duration "x"⟩]) := rfl
  obtain ⟨hout, -, herr⟩ := hrejected _ houtcome
  exact ⟨htwo.2 ⟨_, houtcome⟩, hout, herr⟩

end Cli

end Songbook
