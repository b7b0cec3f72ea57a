import ShadowTaint.Command.Invocation
import ShadowTaint.Config.Load
import ShadowTaint.Encoding.Report
import ShadowTaint.Log.Filter
import ShadowTaint.Trace.Text

/-!
# Running a command

A run goes through stages, and the first that cannot be completed ends it: the
arguments are read, the log is set up, the analysis is set up, and the trace is
replayed. What a run prints is the report. How it ended is told by a status.

A run that is asked for help or for the version prints that, and does nothing else.
-/

namespace ShadowTaint

/-- What a run finds around it. -/
structure Surroundings where
  /-- The settings file and the environment. -/
  sources : Sources
  /-- The log file can be opened, if there is one. -/
  logFileOpens : Bool
  /-- The bytes of the trace file, if it can be read. -/
  trace : Option (List UInt8)

/-- How a run ended. -/
inductive Outcome
  /-- The arguments were wrong. -/
  | usage
  /-- A topic was asked for, and is told about. -/
  | told (topic : Topic)
  /-- Something stopped the run. -/
  | stopped (stop : Stop)
  /-- The trace was replayed, and the report is printed. -/
  | report (text : String)
  deriving DecidableEq

namespace Outcome

/-- The status that tells how a run ended. -/
def status : Outcome -> UInt32
  | report _ | told _ => 0
  | stopped (.failure _) => 1
  | usage => 2
  | stopped (.fault _) => 101

/-- What a run prints, if the given texts tell about topics. -/
def output (texts : Topic -> String) : Outcome -> String
  | report text => text ++ "\n"
  | told topic => texts topic
  | usage | stopped _ => ""

/-- What is to be said about a run that went wrong. -/
def complaint? : Outcome -> Option String
  | report _ | told _ => none
  | usage => some "wrong use of arguments"
  | stopped stop => some stop.message

end Outcome

namespace LogConfig

/-- The variable whose filter, if it is valid, takes the place of the levels. -/
def filterVariable : String := "RUST_LOG"

/-- Check the filter of an output that logs at a level. -/
def checkFilter (config : LogConfig) (environment : List (String × String))
    (level : String) : Except Stop Unit :=
  let ofLevel := LogFilter.check (config.directives level)
  match environment.lookup filterVariable with
  | some filter => Stop.orElse (LogFilter.check filter) ofLevel
  | none => ofLevel

/-- A text can name a file: it holds no zero character. -/
def isPath (text : String) : Bool := text.toList.all fun char => char.toNat != 0

/-- The file that the log has to open. It is opened once the filter of the console
is known to be valid. -/
def fileToOpen? (config : LogConfig) (environment : List (String × String)) :
    Option String :=
  match config.checkFilter environment config.consoleLevel with
  | .ok () => config.file.filter isPath
  | .error _ => none

/-- Set up the log: the console, then the file. The level of the file counts only
if there is one. -/
def check (config : LogConfig) (surroundings : Surroundings) : Except Stop Unit := do
  let environment := surroundings.sources.environment
  config.checkFilter environment config.consoleLevel
  match config.file with
  | none => .ok ()
  | some path =>
      if isPath path && surroundings.logFileOpens then
        config.checkFilter environment config.fileLevel
      else .error (.failure (.inputOutput ("cannot open " ++ path)))

end LogConfig

namespace Invocation

/-- The settings of the log, those of the command line included. -/
def logConfig (invocation : Invocation) (sources : Sources) : Except Stop LogConfig := do
  let config ← LogConfig.configSection.loadOrDefault sources
  return { config with
    consoleLevel := invocation.level.getD config.consoleLevel
    taintLevel := invocation.taintLevel.or config.taintLevel }

/-- The file that the log of a run has to open. -/
def logFile? (invocation : Invocation) (sources : Sources) : Option String :=
  match invocation.logConfig sources with
  | .ok config => config.fileToOpen? sources.environment
  | .error _ => none

/-- The analysis that is asked for, under given settings. -/
def analysis (invocation : Invocation) (config : AnalysisConfig) : Analysis where
  config := config
  sourceCalls := invocation.sources
  sourceLabel := invocation.label.getD config.defaultLabel

/-- The text of a report. -/
def render (invocation : Invocation) (report : Report) : String :=
  if invocation.pretty then report.toJson.pretty else report.toJson.compact

/-- Do what is asked for. -/
def report (invocation : Invocation) (surroundings : Surroundings) :
    Except Stop String := do
  let log ← invocation.logConfig surroundings.sources
  log.check surroundings
  let config ← AnalysisConfig.configSection.loadOrDefault surroundings.sources
  let analysis := invocation.analysis config
  let memory ← analysis.createMemory.mapError .fault
  let trace ← match surroundings.trace with
    | some bytes => .ok bytes
    | none => .error (.failure (.inputOutput ("cannot read " ++ invocation.trace)))
  let reached := analysis.replay (Replay.start memory) trace
  let _ ← reached.result
  return invocation.render reached.state.report

end Invocation

/-- Run a command. -/
def run (arguments : List String) (surroundings : Invocation -> Surroundings) : Outcome :=
  match Request.ofArguments? arguments with
  | none => .usage
  | some (.tell topic) => .told topic
  | some (.replay invocation) =>
      match invocation.report (surroundings invocation) with
      | .ok text => .report text
      | .error stop => .stopped stop

end ShadowTaint
