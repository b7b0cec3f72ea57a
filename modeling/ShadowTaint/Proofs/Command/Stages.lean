import Mathlib.Order.WellFounded
import ShadowTaint.Command.Topics
import ShadowTaint.Proofs.Calls.Sources
import ShadowTaint.Proofs.Command.Faults
import ShadowTaint.Proofs.Command.Reports
import ShadowTaint.Proofs.Shadow.History
import ShadowTaint.Proofs.Trace.Ends

/-!
# The stages of a run

A run has stages, and each of them can fail whatever becomes of the others. The first one
that does decides the status of the run, and nothing is printed. If none does, the report
is printed as one value, or what was asked for instead of a replay.

A stage that reads settings or log filters may break off with a fault instead of a
failure, and then the status is that of a fault. It does not break off as long as keys and
filters are such that no fault is left in reading them.
-/

namespace ShadowTaint

/-! ## Setting up the log -/

namespace LogFilter

/-- All directives of a filter can be understood. -/
def IsValid (filter : String) : Prop := check filter = .ok ()

/-- A directive of a filter cannot be understood, and those before it can. -/
def IsRefused (filter : String) : Prop := ∃ failure, check filter = .error (.failure failure)

end LogFilter

namespace LogConfig

variable {config : LogConfig} {environment : List (String × String)} {level : String}
  {surroundings : Surroundings}

/-- There is a filter for an output that logs at a level. A valid filter in the environment
takes the place of the level, and one that is refused does not count. -/
inductive HasFilter
    (config : LogConfig)
    (environment : List (String × String))
    (level : String) : Prop
  | override {filter : String}
      (given : environment.lookup filterVariable = some filter)
      (valid : LogFilter.IsValid filter)
  | refused {filter : String}
      (given : environment.lookup filterVariable = some filter)
      (refused : LogFilter.IsRefused filter)
      (valid : LogFilter.IsValid (config.directives level))
  | ofLevel
      (none : environment.lookup filterVariable = none)
      (valid : LogFilter.IsValid (config.directives level))

/-- The log can be set up: the console has a filter, and a file that is named can be opened
and has one too. -/
structure IsReady (config : LogConfig) (surroundings : Surroundings) : Prop where
  console : config.HasFilter surroundings.sources.environment config.consoleLevel
  file : ∀ path, config.file = some path ->
    isPath path = true ∧ surroundings.logFileOpens = true ∧
      config.HasFilter surroundings.sources.environment config.fileLevel

theorem checkFilter_eq_ok_iff :
    config.checkFilter environment level = .ok () ↔ config.HasFilter environment level := by
  constructor
  · intro checked
    rw [checkFilter] at checked
    cases found : environment.lookup filterVariable with
    | none =>
        rw [found] at checked
        exact .ofLevel found checked
    | some filter =>
        simp only [found] at checked
        cases result : LogFilter.check filter with
        | ok => exact .override found result
        | error stop =>
            rw [result] at checked
            cases stop with
            | fault fault => cases checked
            | failure failure => exact .refused found ⟨failure, result⟩ checked
  · intro filtered
    rw [checkFilter]
    cases filtered with
    | override given valid =>
        simp only [given]
        rw [valid]
        rfl
    | refused given refused valid =>
        obtain ⟨failure, result⟩ := refused
        simp only [given]
        rw [result]
        exact valid
    | ofLevel none valid =>
        rw [none]
        exact valid

theorem check_eq_ok_iff : config.check surroundings = .ok () ↔ config.IsReady surroundings := by
  rw [check]
  constructor
  · intro checked
    cases console : config.checkFilter surroundings.sources.environment config.consoleLevel with
    | error stop =>
        rw [console] at checked
        cases checked
    | ok =>
        rw [console] at checked
        refine ⟨checkFilter_eq_ok_iff.1 console, ?_⟩
        intro path named
        simp only [named] at checked
        split at checked
        · next opens =>
            rw [Bool.and_eq_true] at opens
            exact ⟨opens.1, opens.2, checkFilter_eq_ok_iff.1 checked⟩
        · cases checked
  · rintro ⟨console, file⟩
    rw [checkFilter_eq_ok_iff.2 console]
    cases named : config.file with
    | none => rfl
    | some path =>
        obtain ⟨isPath, opens, filtered⟩ := file path named
        dsimp only
        rw [if_pos (by rw [isPath, opens]; rfl)]
        exact checkFilter_eq_ok_iff.2 filtered

end LogConfig

namespace Invocation

/-- Settings of the log, with those of a command line laid over them. -/
def overLog (invocation : Invocation) (config : LogConfig) : LogConfig :=
  { config with
    consoleLevel := invocation.level.getD config.consoleLevel
    taintLevel := invocation.taintLevel.or config.taintLevel }

/-- The settings of the log can be loaded, and the log can be set up with them. -/
def CanLog (invocation : Invocation) (surroundings : Surroundings) : Prop :=
  ∃ config, LogConfig.configSection.loadOrDefault surroundings.sources = .ok config ∧
    (invocation.overLog config).IsReady surroundings

/-- Load the settings of the log, and set it up. -/
def setUpLog (invocation : Invocation) (surroundings : Surroundings) : Except Stop Unit := do
  let config ← invocation.logConfig surroundings.sources
  config.check surroundings

variable {invocation : Invocation} {surroundings : Surroundings}

theorem setUpLog_eq_ok_iff :
    invocation.setUpLog surroundings = .ok () ↔ invocation.CanLog surroundings := by
  rw [setUpLog, logConfig, CanLog]
  cases LogConfig.configSection.loadOrDefault surroundings.sources with
  | error stop => exact ⟨nofun, nofun⟩
  | ok config =>
      constructor
      · intro checked
        exact ⟨config, rfl, LogConfig.check_eq_ok_iff.1 checked⟩
      · rintro ⟨_, ⟨⟩, ready⟩
        exact LogConfig.check_eq_ok_iff.2 ready

/-- The log is set up without a fault if its settings and filters leave none. -/
theorem faultless_setUpLog
    (forward : surroundings.sources.IsForward)
    (clean : ∀ config, LogConfig.configSection.loadOrDefault surroundings.sources = .ok config ->
      (invocation.overLog config).HasCleanFilters surroundings.sources.environment) :
    Stop.Faultless (invocation.setUpLog surroundings) := by
  have loads := Section.faultless_loadOrDefault forward LogConfig.configSection
  rw [setUpLog, logConfig]
  cases loaded : LogConfig.configSection.loadOrDefault surroundings.sources with
  | error stop =>
      rw [loaded] at loads
      intro cause faulted
      cases faulted
      exact loads cause rfl
  | ok config => exact LogConfig.faultless_check (clean config loaded)

/-! ## Reports and their stages -/

/-- A run gets to its trace: there is memory for its settings, and the trace can be read. -/
structure Begins
    (invocation : Invocation)
    (surroundings : Surroundings)
    (config : AnalysisConfig)
    (memory : Memory)
    (bytes : List UInt8) : Prop where
  loaded : AnalysisConfig.configSection.loadOrDefault surroundings.sources = .ok config
  created : (invocation.analysis config).createMemory = .ok memory
  read : surroundings.trace = some bytes

variable {config : AnalysisConfig} {memory : Memory} {bytes : List UInt8} {stop : Stop}

/-- What a run does once the log is set up. -/
def reportTrace (invocation : Invocation) (surroundings : Surroundings) :
    Except Stop String := do
  let config ← AnalysisConfig.configSection.loadOrDefault surroundings.sources
  let analysis := invocation.analysis config
  let memory ← analysis.createMemory.mapError .fault
  let trace ← match surroundings.trace with
    | some bytes => .ok bytes
    | none => .error (.failure (.inputOutput ("cannot read " ++ invocation.trace)))
  let reached := analysis.replay (Replay.start memory) trace
  let _ ← reached.result
  return invocation.render reached.state.report

theorem report_eq (invocation : Invocation) (surroundings : Surroundings) :
    invocation.report surroundings =
      (invocation.setUpLog surroundings >>= fun _ => invocation.reportTrace surroundings) := by
  rw [setUpLog, bind_assoc]
  rfl

theorem report_of_setUpLog_error (stopped : invocation.setUpLog surroundings = .error stop) :
    invocation.report surroundings = .error stop := by
  rw [report_eq, stopped]
  rfl

theorem CanLog.report_eq (logs : invocation.CanLog surroundings) :
    invocation.report surroundings = invocation.reportTrace surroundings := by
  rw [Invocation.report_eq, setUpLog_eq_ok_iff.2 logs]
  rfl

theorem reportTrace_of_load_error
    (stopped : AnalysisConfig.configSection.loadOrDefault surroundings.sources = .error stop) :
    invocation.reportTrace surroundings = .error stop := by
  rw [reportTrace, stopped]
  rfl

theorem reportTrace_of_exceeds
    (loaded : AnalysisConfig.configSection.loadOrDefault surroundings.sources = .ok config)
    (exceeds : UInt32.size < config.shadowBase.toNat + config.shadowSize.toNat) :
    ∃ fault, invocation.reportTrace surroundings = .error (.fault fault) := by
  obtain ⟨fault, failed⟩ := Memory.create_error (Nat.not_le.2 exceeds)
  have notCreated : (invocation.analysis config).createMemory = .error fault := failed
  refine ⟨fault, ?_⟩
  rw [reportTrace, loaded]
  show ((invocation.analysis config).createMemory.mapError Stop.fault >>= _) = _
  rw [notCreated]
  rfl

theorem reportTrace_of_absent
    (loaded : AnalysisConfig.configSection.loadOrDefault surroundings.sources = .ok config)
    (created : (invocation.analysis config).createMemory = .ok memory)
    (absent : surroundings.trace = none) :
    ∃ failure, invocation.reportTrace surroundings = .error (.failure failure) := by
  refine ⟨.inputOutput ("cannot read " ++ invocation.trace), ?_⟩
  rw [reportTrace, loaded, absent]
  show ((invocation.analysis config).createMemory.mapError Stop.fault >>= _) = _
  rw [created]
  rfl

/-- A run that gets to its trace ends as the replay does. -/
theorem Begins.reportTrace_eq (begins : invocation.Begins surroundings config memory bytes) :
    invocation.reportTrace surroundings =
      ((invocation.analysis config).replay (Replay.start memory) bytes).result.map fun _ =>
        invocation.render
          ((invocation.analysis config).replay (Replay.start memory) bytes).state.report := by
  rw [reportTrace, begins.loaded, begins.read]
  show ((invocation.analysis config).createMemory.mapError Stop.fault >>= _) = _
  rw [begins.created]
  rfl

end Invocation

/-! ## Stages -/

/-- The stages of a run, in order. The last two take place in one pass over the trace. -/
inductive Stage
  | usage
  /-- The settings of the log, its filters, and its file. -/
  | log
  /-- The settings of the analysis. -/
  | settings
  /-- The range of the shadow memory. -/
  | shadow
  /-- The trace file. -/
  | file
  /-- The lines of the trace. -/
  | line
  /-- The contracts of its events. -/
  | contract
  deriving DecidableEq

namespace Stage

/-- The place of a stage in a run. -/
def place : Stage -> Nat
  | usage => 0
  | log => 1
  | settings => 2
  | shadow => 3
  | file => 4
  | line => 5
  | contract => 6

theorem place_inj {first second : Stage} : first.place = second.place ↔ first = second := by
  cases first <;> cases second <;> simp [place]

/-- The status of a run in which a stage fails. -/
def status : Stage -> UInt32
  | usage => 2
  | log | settings | file | line => 1
  | shadow | contract => 101

theorem status_ne_zero (stage : Stage) : stage.status ≠ 0 := by
  cases stage <;> decide

end Stage

open TraceText

/-- A stage of a run fails, whatever becomes of the stages before it. -/
inductive Fails (arguments : List String) (surroundings : Invocation -> Surroundings) :
    Stage -> Prop
  | usage (wrong : Request.ofArguments? arguments = none) :
      Fails arguments surroundings .usage
  | log {invocation : Invocation}
      (asked : Request.ofArguments? arguments = some (.replay invocation))
      (refused : ¬invocation.CanLog (surroundings invocation)) :
      Fails arguments surroundings .log
  | settings {invocation : Invocation}
      (asked : Request.ofArguments? arguments = some (.replay invocation))
      (refused : ∀ config,
        AnalysisConfig.configSection.loadOrDefault (surroundings invocation).sources ≠ .ok config) :
      Fails arguments surroundings .settings
  | shadow {invocation : Invocation} {config : AnalysisConfig}
      (asked : Request.ofArguments? arguments = some (.replay invocation))
      (loaded :
        AnalysisConfig.configSection.loadOrDefault (surroundings invocation).sources = .ok config)
      (exceeds : UInt32.size < config.shadowBase.toNat + config.shadowSize.toNat) :
      Fails arguments surroundings .shadow
  | file {invocation : Invocation}
      (asked : Request.ofArguments? arguments = some (.replay invocation))
      (absent : (surroundings invocation).trace = none) :
      Fails arguments surroundings .file
  | line {invocation : Invocation} {config : AnalysisConfig} {memory : Memory}
      {bytes : List UInt8}
      (asked : Request.ofArguments? arguments = some (.replay invocation))
      (begins : invocation.Begins (surroundings invocation) config memory bytes)
      (flawed : (invocation.analysis config).MeetsFlaw (Replay.start memory) (textLines bytes)) :
      Fails arguments surroundings .line
  | contract {invocation : Invocation} {config : AnalysisConfig} {memory : Memory}
      {bytes : List UInt8}
      (asked : Request.ofArguments? arguments = some (.replay invocation))
      (begins : invocation.Begins (surroundings invocation) config memory bytes)
      (violated :
        (invocation.analysis config).MeetsViolation (Replay.start memory) (textLines bytes)) :
      Fails arguments surroundings .contract

/-- A stage fails, and none before it does. -/
def FailsFirst
    (arguments : List String)
    (surroundings : Invocation -> Surroundings)
    (stage : Stage) : Prop :=
  Fails arguments surroundings stage ∧
    ∀ earlier, earlier.place < stage.place -> ¬Fails arguments surroundings earlier

/-- A stage is left with a fault in reading settings or log filters. -/
inductive BreaksOff (arguments : List String) (surroundings : Invocation -> Surroundings) :
    Stage -> Prop
  | log {invocation : Invocation} {fault : Fault}
      (asked : Request.ofArguments? arguments = some (.replay invocation))
      (faulted : invocation.setUpLog (surroundings invocation) = .error (.fault fault)) :
      BreaksOff arguments surroundings .log
  | settings {invocation : Invocation} {fault : Fault}
      (asked : Request.ofArguments? arguments = some (.replay invocation))
      (faulted : AnalysisConfig.configSection.loadOrDefault (surroundings invocation).sources =
        .error (.fault fault)) :
      BreaksOff arguments surroundings .settings

/-- A run gets through all of its stages. -/
structure Invocation.Completes
    (invocation : Invocation)
    (surroundings : Surroundings)
    (config : AnalysisConfig)
    (memory : Memory)
    (bytes : List UInt8)
    (reached : Replay) : Prop extends
    invocation.Begins surroundings config memory bytes where
  logs : invocation.CanLog surroundings
  through : (invocation.analysis config).GetsThrough (Replay.start memory) (textLines bytes) reached

variable {arguments : List String} {surroundings : Invocation -> Surroundings}
  {invocation : Invocation} {config : AnalysisConfig} {memory : Memory} {bytes : List UInt8}
  {reached : Replay} {stage : Stage}

/-! ### Stages that do not fail -/

theorem exists_request (passed : ¬Fails arguments surroundings .usage) :
    (∃ topic, Request.ofArguments? arguments = some (.tell topic)) ∨
      ∃ invocation, Request.ofArguments? arguments = some (.replay invocation) := by
  obtain ⟨request, asked⟩ := Option.ne_none_iff_exists'.1 fun wrong => passed (.usage wrong)
  cases request with
  | tell topic => exact .inl ⟨topic, asked⟩
  | replay invocation => exact .inr ⟨invocation, asked⟩

theorem canLog
    (asked : Request.ofArguments? arguments = some (.replay invocation))
    (passed : ¬Fails arguments surroundings .log) :
    invocation.CanLog (surroundings invocation) :=
  not_not.1 fun refused => passed (.log asked refused)

theorem exists_config
    (asked : Request.ofArguments? arguments = some (.replay invocation))
    (passed : ¬Fails arguments surroundings .settings) :
    ∃ config,
      AnalysisConfig.configSection.loadOrDefault (surroundings invocation).sources = .ok config :=
  not_forall_not.1 fun refused => passed (.settings asked refused)

theorem exists_memory
    (asked : Request.ofArguments? arguments = some (.replay invocation))
    (loaded :
      AnalysisConfig.configSection.loadOrDefault (surroundings invocation).sources = .ok config)
    (passed : ¬Fails arguments surroundings .shadow) :
    ∃ memory, (invocation.analysis config).createMemory = .ok memory := by
  have fits : config.shadowBase.toNat + config.shadowSize.toNat ≤ UInt32.size :=
    Nat.le_of_not_lt fun exceeds => passed (.shadow asked loaded exceeds)
  obtain ⟨memory, created, -⟩ := Memory.create_ok fits
  exact ⟨memory, created⟩

theorem exists_bytes
    (asked : Request.ofArguments? arguments = some (.replay invocation))
    (passed : ¬Fails arguments surroundings .file) :
    ∃ bytes, (surroundings invocation).trace = some bytes :=
  Option.ne_none_iff_exists'.1 fun absent => passed (.file asked absent)

/-- A replay in which no stage fails gets through all of them. -/
theorem exists_completes
    (asked : Request.ofArguments? arguments = some (.replay invocation))
    (passed : ∀ stage, ¬Fails arguments surroundings stage) :
    ∃ config memory bytes reached,
      invocation.Completes (surroundings invocation) config memory bytes reached := by
  obtain ⟨config, loaded⟩ := exists_config asked (passed .settings)
  obtain ⟨memory, created⟩ := exists_memory asked loaded (passed .shadow)
  obtain ⟨bytes, read⟩ := exists_bytes asked (passed .file)
  have begins : invocation.Begins (surroundings invocation) config memory bytes :=
    ⟨loaded, created, read⟩
  have logs := canLog asked (passed .log)
  obtain ⟨reached, through⟩ | flawed | violated :=
    (invocation.analysis config).lines_cases (Replay.start memory) (textLines bytes)
  · exact ⟨config, memory, bytes, reached, begins, logs, through⟩
  · exact absurd (.line asked begins flawed) (passed .line)
  · exact absurd (.contract asked begins violated) (passed .contract)

theorem FailsFirst.eq
    {other : Stage}
    (first : FailsFirst arguments surroundings stage)
    (otherFirst : FailsFirst arguments surroundings other) :
    stage = other := by
  rw [← Stage.place_inj]
  have notLater := Nat.le_of_not_lt fun earlier => first.2 other earlier otherFirst.1
  have notEarlier := Nat.le_of_not_lt fun earlier => otherFirst.2 stage earlier first.1
  exact Nat.le_antisymm notLater notEarlier

/-- Of the stages that fail, one is the first. -/
theorem existsUnique_failsFirst (failed : Fails arguments surroundings stage) :
    ∃! first, FailsFirst arguments surroundings first := by
  obtain ⟨first, fails, least⟩ :=
    (measure Stage.place).wf.has_min {stage | Fails arguments surroundings stage} ⟨stage, failed⟩
  have isFirst : FailsFirst arguments surroundings first :=
    ⟨fails, fun earlier before fails => least earlier fails before⟩
  exact ⟨first, isFirst, fun other otherFirst => otherFirst.eq isFirst⟩

/-! ### Outcomes -/

theorem run_eq_stopped
    {stop : Stop}
    (asked : Request.ofArguments? arguments = some (.replay invocation))
    (stopped : invocation.report (surroundings invocation) = .error stop) :
    run arguments surroundings = .stopped stop := by
  simp only [run, asked, stopped]

/-- A run that is asked for a topic tells about it. -/
theorem run_of_tell
    {topic : Topic}
    (asked : Request.ofArguments? arguments = some (.tell topic)) :
    run arguments surroundings = .told topic := by
  simp only [run, asked]

/-- What a run prints that gets through all of its stages. -/
theorem run_of_completes
    (asked : Request.ofArguments? arguments = some (.replay invocation))
    (completes : invocation.Completes (surroundings invocation) config memory bytes reached) :
    run arguments surroundings = .report (invocation.render reached.report) := by
  have reported : invocation.report (surroundings invocation) =
      .ok (invocation.render reached.report) := by
    rw [completes.logs.report_eq, completes.toBegins.reportTrace_eq,
      Analysis.replay_of_getsThrough completes.through]
    rfl
  simp only [run, asked, reported]

/-- The status of a run that stops in a stage, if the stage breaks off exactly when the stop
is a fault, and has the status of a failure otherwise. -/
theorem status_of_stop
    {stop : Stop}
    (outcome : run arguments surroundings = .stopped stop)
    (breaks : BreaksOff arguments surroundings stage ↔ ∃ fault, stop = .fault fault)
    (failure : stage.status = 1) :
    (¬BreaksOff arguments surroundings stage ->
      (run arguments surroundings).status = stage.status) ∧
    (BreaksOff arguments surroundings stage -> (run arguments surroundings).status = 101) := by
  rw [outcome, failure]
  cases stop with
  | fault fault => exact ⟨fun whole => absurd (breaks.2 ⟨fault, rfl⟩) whole, fun _ => rfl⟩
  | failure cause =>
      refine ⟨fun _ => rfl, fun broken => ?_⟩
      obtain ⟨fault, ⟨⟩⟩ := breaks.1 broken

/-- A run whose log cannot be set up. -/
theorem status_of_log_first
    (asked : Request.ofArguments? arguments = some (.replay invocation))
    (refused : ¬invocation.CanLog (surroundings invocation)) :
    (¬BreaksOff arguments surroundings .log -> (run arguments surroundings).status = 1) ∧
    (BreaksOff arguments surroundings .log -> (run arguments surroundings).status = 101) := by
  cases set : invocation.setUpLog (surroundings invocation) with
  | ok => exact absurd (Invocation.setUpLog_eq_ok_iff.1 set) refused
  | error stop =>
      refine status_of_stop (run_eq_stopped asked (Invocation.report_of_setUpLog_error set)) ?_ rfl
      constructor
      · intro broken
        cases broken with
        | log again faulted =>
            cases asked.symm.trans again
            exact ⟨_, Except.error.inj (set.symm.trans faulted)⟩
      · rintro ⟨fault, rfl⟩
        exact .log asked set

/-- A run that can log, but whose settings cannot be loaded. -/
theorem status_of_settings_first
    (asked : Request.ofArguments? arguments = some (.replay invocation))
    (logs : invocation.CanLog (surroundings invocation))
    (refused : ∀ config,
      AnalysisConfig.configSection.loadOrDefault (surroundings invocation).sources ≠ .ok config) :
    (¬BreaksOff arguments surroundings .settings -> (run arguments surroundings).status = 1) ∧
    (BreaksOff arguments surroundings .settings -> (run arguments surroundings).status = 101) := by
  cases loaded : AnalysisConfig.configSection.loadOrDefault (surroundings invocation).sources with
  | ok config => exact absurd loaded (refused config)
  | error stop =>
      have stopped := logs.report_eq.trans (Invocation.reportTrace_of_load_error loaded)
      refine status_of_stop (run_eq_stopped asked stopped) ?_ rfl
      constructor
      · intro broken
        cases broken with
        | settings again faulted =>
            cases asked.symm.trans again
            exact ⟨_, Except.error.inj (loaded.symm.trans faulted)⟩
      · rintro ⟨fault, rfl⟩
        exact .settings asked loaded

/-- The first stage that fails decides the status. -/
theorem status_of_failsFirst (first : FailsFirst arguments surroundings stage) :
    (¬BreaksOff arguments surroundings stage ->
      (run arguments surroundings).status = stage.status) ∧
    (BreaksOff arguments surroundings stage -> (run arguments surroundings).status = 101) := by
  obtain ⟨failed, passed⟩ := first
  -- The last four stages do not break off.
  have stops {invocation : Invocation} {stop : Stop}
      (asked : Request.ofArguments? arguments = some (.replay invocation))
      (logs : ¬Fails arguments surroundings .log)
      (stopped : invocation.reportTrace (surroundings invocation) = .error stop) :
      (run arguments surroundings).status = (Outcome.stopped stop).status := by
    rw [run_eq_stopped asked ((canLog asked logs).report_eq.trans stopped)]
  cases failed with
  | usage wrong =>
      refine ⟨fun _ => ?_, nofun⟩
      simp only [run, wrong]
      rfl
  | log asked refused => exact status_of_log_first asked refused
  | settings asked refused =>
      exact status_of_settings_first asked (canLog asked (passed .log (by decide))) refused
  | shadow asked loaded exceeds =>
      obtain ⟨fault, stopped⟩ := Invocation.reportTrace_of_exceeds loaded exceeds
      exact ⟨fun _ => stops asked (passed .log (by decide)) stopped, nofun⟩
  | file asked absent =>
      obtain ⟨config, loaded⟩ := exists_config asked (passed .settings (by decide))
      obtain ⟨memory, created⟩ := exists_memory asked loaded (passed .shadow (by decide))
      obtain ⟨failure, stopped⟩ := Invocation.reportTrace_of_absent loaded created absent
      exact ⟨fun _ => stops asked (passed .log (by decide)) stopped, nofun⟩
  | line asked begins flawed =>
      obtain ⟨failure, ended⟩ := Analysis.result_of_meetsFlaw flawed
      have stopped := begins.reportTrace_eq
      rw [ended] at stopped
      exact ⟨fun _ => stops asked (passed .log (by decide)) stopped, nofun⟩
  | contract asked begins violated =>
      obtain ⟨fault, ended⟩ := Analysis.result_of_meetsViolation violated
      have stopped := begins.reportTrace_eq
      rw [ended] at stopped
      exact ⟨fun _ => stops asked (passed .log (by decide)) stopped, nofun⟩

theorem status_ne_zero_of_failsFirst (first : FailsFirst arguments surroundings stage) :
    (run arguments surroundings).status ≠ 0 := by
  obtain ⟨whole, broken⟩ := status_of_failsFirst first
  by_cases breaks : BreaksOff arguments surroundings stage
  · rw [broken breaks]
    decide
  · rw [whole breaks]
    exact stage.status_ne_zero

/-- A run prints nothing unless its status is zero. -/
theorem output_eq_empty
    {outcome : Outcome}
    (texts : Topic -> String)
    (failed : outcome.status ≠ 0) :
    outcome.output texts = "" := by
  cases outcome with
  | usage | stopped => rfl
  | report | told => exact absurd rfl failed

/-- Settings and filters in which nothing leaves a fault break no stage off. -/
theorem not_breaksOff
    (asked : Request.ofArguments? arguments = some (.replay invocation))
    (forward : (surroundings invocation).sources.IsForward)
    (clean : ∀ config,
      LogConfig.configSection.loadOrDefault (surroundings invocation).sources = .ok config ->
      (invocation.overLog config).HasCleanFilters (surroundings invocation).sources.environment) :
    ¬BreaksOff arguments surroundings stage := by
  intro breaks
  cases breaks with
  | log again faulted =>
      cases asked.symm.trans again
      exact Invocation.faultless_setUpLog forward clean _ faulted
  | settings again faulted =>
      cases asked.symm.trans again
      exact Section.faultless_loadOrDefault forward AnalysisConfig.configSection _ faulted

/-- The first stage that fails decides the status of a run, and nothing is printed. If no
stage fails, the status is zero, and what is printed is the report of the events of the
trace, applied in order to clean memory with the settings that were loaded. Both of its
forms are read as the same value, for a trace whose length is a number of 64 bits. The
label of the command line, else that of the settings, goes to what sources fill, and
nowhere else. A command line that asks for a topic is no replay: its run has status zero
and prints the text on the topic.

A stage that reads settings or filters may break off, with the status of a fault. Keys that
leave no list and filters with clean directives do not do that. -/
theorem run_ends_in_first_failing_stage
    (arguments : List String)
    (surroundings : Invocation -> Surroundings)
    (texts : Topic -> String) :
    ((run arguments surroundings).status ≠ 0 -> (run arguments surroundings).output texts = "") ∧
    (∀ stage, Fails arguments surroundings stage ->
      ∃! first, FailsFirst arguments surroundings first) ∧
    (∀ stage, FailsFirst arguments surroundings stage ->
      (¬BreaksOff arguments surroundings stage ->
        (run arguments surroundings).status = stage.status) ∧
      (BreaksOff arguments surroundings stage -> (run arguments surroundings).status = 101)) ∧
    (∀ invocation, Request.ofArguments? arguments = some (.replay invocation) ->
      (surroundings invocation).sources.IsForward ->
      (∀ config,
        LogConfig.configSection.loadOrDefault (surroundings invocation).sources = .ok config ->
        (invocation.overLog config).HasCleanFilters
          (surroundings invocation).sources.environment) ->
      ∀ stage, ¬BreaksOff arguments surroundings stage) ∧
    ((run arguments surroundings).status = 0 ↔
      ∀ stage, ¬Fails arguments surroundings stage) ∧
    (∀ topic, Request.ofArguments? arguments = some (.tell topic) ->
      (run arguments surroundings).status = 0 ∧
      (run arguments surroundings).output texts = texts topic) ∧
    ((run arguments surroundings).status = 0 ->
      (∃ topic, Request.ofArguments? arguments = some (.tell topic)) ∨
      ∃ invocation config memory bytes reached,
        Request.ofArguments? arguments = some (.replay invocation) ∧
        invocation.Completes (surroundings invocation) config memory bytes reached ∧
        memory.labels = LabelMap.clean config.shadowBase.toNat config.shadowSize.toNat ∧
        (run arguments surroundings).output texts =
          invocation.render reached.report ++ "\n" ∧
        (bytes.length < UInt64.size -> ∀ pretty,
          Json.read ({ invocation with pretty := pretty }.render reached.report).toList =
            some reached.report.toJson) ∧
        invocation.analysis config =
          ⟨config, invocation.sources, invocation.label.getD config.defaultLabel⟩ ∧
        (invocation.analysis config).LabelsOutputsOnly) := by
  have succeeds : (run arguments surroundings).status = 0 ↔
      ∀ stage, ¬Fails arguments surroundings stage := by
    constructor
    · intro ended stage failed
      obtain ⟨first, fails, -⟩ := existsUnique_failsFirst failed
      exact status_ne_zero_of_failsFirst fails ended
    · intro passed
      obtain ⟨topic, asked⟩ | ⟨invocation, asked⟩ := exists_request (passed .usage)
      · rw [run_of_tell asked]
        rfl
      · obtain ⟨config, memory, bytes, reached, completes⟩ := exists_completes asked passed
        rw [run_of_completes asked completes]
        rfl
  refine ⟨output_eq_empty texts, fun _ => existsUnique_failsFirst, fun _ => status_of_failsFirst,
    ?whole, succeeds, ?topic, ?report⟩
  case whole =>
    intro invocation asked forward clean stage
    exact not_breaksOff asked forward clean
  case topic =>
    intro topic asked
    rw [run_of_tell asked]
    exact ⟨rfl, rfl⟩
  case report =>
    intro ended
    refine (exists_request (succeeds.1 ended .usage)).imp_right ?_
    rintro ⟨invocation, asked⟩
    obtain ⟨config, memory, bytes, reached, completes⟩ :=
      exists_completes asked (succeeds.1 ended)
    refine ⟨invocation, config, memory, bytes, reached, asked, completes, ?_, ?_, ?_, rfl, ?_⟩
    · exact Memory.labels_of_create completes.created
    · rw [run_of_completes asked completes]
      rfl
    · intro short pretty
      exact Invocation.read_render completes.through.ran short _
    · exact Analysis.labelsOutputsOnly _

/-- A trace in which a violation comes before a line that is no event. -/
theorem run_ends_in_first_failing_stage_violation :
    let arguments := ["-s", "3", "--label=7", "trace"]
    let trace := Utf8.encode
      "# trace\n\x7b\"event\":\"untaint\",\"addr\":16,\"len\":1\x7d\nnonsense\n"
    let surroundings : Invocation -> Surroundings := fun _ =>
      ⟨⟨none, [("ARMTAINT__TAINT__SHADOW_SIZE", "16")]⟩, true, some trace⟩
    FailsFirst arguments surroundings .contract ∧
      (run arguments surroundings).status = 101 ∧
      (run arguments surroundings).output Topic.text = "" := by
  intro arguments trace surroundings
  let invocation : Invocation := ⟨"trace", none, none, [3], some 7, false⟩
  let config : AnalysisConfig := { AnalysisConfig.standard with shadowSize := 16 }
  have asked : Request.ofArguments? arguments = some (.replay invocation) := by decide +kernel
  have loaded : AnalysisConfig.configSection.loadOrDefault (surroundings invocation).sources =
      .ok config := by decide +kernel
  have logs : invocation.setUpLog (surroundings invocation) = .ok () := by decide +kernel
  obtain ⟨memory, created, clean⟩ : ∃ memory, Memory.create 0 16 = .ok memory ∧
      memory.labels = LabelMap.clean 0 16 := Memory.create_ok (by decide)
  have begins : invocation.Begins (surroundings invocation) config memory trace :=
    ⟨loaded, created, rfl⟩
  have violated :
      (invocation.analysis config).MeetsViolation (Replay.start memory) (textLines trace) := by
    let before : List (List UInt8) := [Utf8.encode "# trace"]
    let line := Utf8.encode "\x7b\"event\":\"untaint\",\"addr\":16,\"len\":1\x7d"
    have lines : textLines trace = before ++ line :: [Utf8.encode "nonsense"] := by decide +kernel
    have readable : ∀ line ∈ before, Readable line := by decide +kernel
    have silent : events before = [] := by decide +kernel
    have through : (invocation.analysis config).GetsThrough (Replay.start memory) before
        (Replay.start memory) := ⟨readable, by rw [silent]; rfl⟩
    refine ⟨line, Replay.start memory, .untaint 16 1, ⟨before, _, lines, through⟩, ?_, ?_⟩
    · decide +kernel
    · have base : memory.base.toNat = 0 := congrArg LabelMap.base clean
      have size : memory.size = 16 := congrArg LabelMap.size clean
      show ¬Extent.Maps ⟨memory.base.toNat, memory.size⟩ ⟨16, 1⟩
      rw [base, size]
      decide
  have first : FailsFirst arguments surroundings .contract := by
    refine ⟨.contract asked begins violated, ?_⟩
    intro earlier before failed
    cases failed with
    | usage wrong => cases asked.symm.trans wrong
    | log again refused =>
        cases asked.symm.trans again
        exact refused (Invocation.setUpLog_eq_ok_iff.1 logs)
    | settings again refused =>
        cases asked.symm.trans again
        exact refused config loaded
    | shadow again otherLoaded exceeds =>
        cases asked.symm.trans again
        cases loaded.symm.trans otherLoaded
        exact absurd exceeds (by decide)
    | file again absent => cases absent
    | line again otherBegins flawed =>
        cases asked.symm.trans again
        obtain ⟨otherLoaded, otherCreated, ⟨⟩⟩ := otherBegins
        cases loaded.symm.trans otherLoaded
        cases begins.created.symm.trans otherCreated
        exact violated.not_meetsFlaw flawed
    | contract => exact absurd before (Nat.lt_irrefl _)
  obtain ⟨silent, -, decides, -⟩ :=
    run_ends_in_first_failing_stage arguments surroundings Topic.text
  have status : (run arguments surroundings).status = 101 := (decides .contract first).1 nofun
  exact ⟨first, status, silent (by rw [status]; decide)⟩

/-- A filter with a level that is none, behind a blank of several bytes. The name of its span
is cut out of it too early, within the blank, and that is a fault. -/
theorem log_breaksOff_on_blank :
    let arguments := ["--level=\u00a0[ab]=loud", "trace"]
    let surroundings : Invocation -> Surroundings := fun _ => ⟨⟨none, []⟩, true, some []⟩
    FailsFirst arguments surroundings .log ∧
      (run arguments surroundings).status = 101 ∧
      (run arguments surroundings).status ≠ Stage.log.status := by
  intro arguments surroundings
  let invocation : Invocation := ⟨"trace", some "\u00a0[ab]=loud", none, [], none, false⟩
  have asked : Request.ofArguments? arguments = some (.replay invocation) := by decide +kernel
  have stops : invocation.setUpLog (surroundings invocation) ≠ .ok () := by decide +kernel
  have status : (run arguments surroundings).status = 101 := by decide +kernel
  refine ⟨⟨.log asked ?_, ?_⟩, status, by rw [status]; decide⟩
  · exact fun logs => stops (Invocation.setUpLog_eq_ok_iff.2 logs)
  · intro earlier before failed
    cases failed with
    | usage wrong => cases asked.symm.trans wrong
    | log | settings | shadow | file | line | contract =>
        exact absurd before (by decide)

end ShadowTaint
