import Mathlib.Data.List.Induction
import ShadowTaint.Proofs.Trace.Balances

/-!
# Statistics count the events of a replay

Running counts tell how many events of each kind there were. With the tallies of the live
threads they make the statistics of a replay, which tell of every event once. A caller may
ask for them between any two events, and changes none of them by asking.
-/

namespace ShadowTaint

/-! ## Kinds of events -/

/-- Running counts tell how many events of each kind a history holds. -/
structure Statistics.TellsKinds
    (analysis : Analysis)
    (statistics : Statistics)
    (history : List Meeting) : Prop where
  events : statistics.events = history.length
  steps :
    statistics.executed + statistics.skipped + statistics.unhandled =
      history.countP fun meeting => meeting.event.isStep
  unhandled :
    statistics.unhandled = history.countP fun meeting => (meeting.unhandled? analysis).isSome
  calls : statistics.calls = history.countP fun meeting => meeting.event.isCallEntry
  controlRequests :
    statistics.controlRequests = history.countP fun meeting => meeting.event.isControlRequest

/-- One more event is counted under each kind that it is of. -/
theorem Statistics.TellsKinds.concat
    {analysis : Analysis}
    {statistics next : Statistics}
    {history : List Meeting}
    {meeting : Meeting}
    (tells : statistics.TellsKinds analysis history)
    (events : next.events = statistics.events + 1)
    (steps :
      next.executed + next.skipped + next.unhandled =
        statistics.executed + statistics.skipped + statistics.unhandled +
          if meeting.event.isStep then 1 else 0)
    (unhandled :
      next.unhandled =
        statistics.unhandled + if (meeting.unhandled? analysis).isSome then 1 else 0)
    (calls : next.calls = statistics.calls + if meeting.event.isCallEntry then 1 else 0)
    (controlRequests :
      next.controlRequests =
        statistics.controlRequests + if meeting.event.isControlRequest then 1 else 0) :
    next.TellsKinds analysis (history ++ [meeting]) := by
  constructor
  case events => rw [events, tells.events, List.length_append, List.length_singleton]
  case steps => rw [steps, tells.steps, List.countP_append, List.countP_singleton]
  case unhandled => rw [unhandled, tells.unhandled, List.countP_append, List.countP_singleton]
  case calls => rw [calls, tells.calls, List.countP_append, List.countP_singleton]
  case controlRequests =>
    rw [controlRequests, tells.controlRequests, List.countP_append, List.countP_singleton]

namespace Analysis

variable {analysis : Analysis} {replay : Replay} {history : List Meeting}

/-- A call that is about to be entered counts as a request exactly if it carries one. -/
theorem countDisposition_enterCall
    {number : UInt32}
    {arguments : List UInt32}
    {focus : Focus}
    {disposition : CallDisposition}
    (entered : (analysis.enterCall number arguments focus).result = .ok disposition)
    (statistics : Statistics) :
    statistics.countDisposition disposition =
      { statistics with
        controlRequests := statistics.controlRequests +
          if (ControlRequest.ofCall? number arguments).isSome then 1 else 0 } := by
  rw [enterCall] at entered
  cases requested : ControlRequest.ofCall? number arguments with
  | none =>
      rw [requested] at entered
      cases entered
      rfl
  | some request =>
      rw [requested] at entered
      dsimp only at entered
      split at entered
      · cases entered
        rfl
      · cases entered

/-- Every event that runs to its end is counted under its kind. -/
theorem apply_tellsKinds
    (tells : replay.counted.TellsKinds analysis history)
    (event : Event)
    (ran : (analysis.apply replay event).result = .ok ()) :
    (analysis.apply replay event).state.counted.TellsKinds analysis
      (history ++ [⟨replay, event⟩]) := by
  cases event with
  | step id instr context =>
      obtain ⟨outcome, stepped⟩ := Replay.action_ran Replay.countEvent_eq ran
      have met : Meeting.unhandled? analysis ⟨replay, .step id instr context⟩ =
          if outcome.isUnhandled then some instr.opcode else none := by
        rw [Meeting.unhandled?, outcome?, stepped]
      rw [← replay.view_countEvent] at stepped
      have counted := Replay.counted_within stepped Statistics.countOutcome
      rw [apply, counted, Replay.begin_counted]
      apply tells.concat
      · cases outcome <;> rfl
      · cases outcome <;> simp [Statistics.countOutcome, Replay.countEvent, Event.isStep] <;> omega
      · rw [met]
        cases outcome <;> simp [Statistics.countOutcome, Replay.countEvent, StepOutcome.isUnhandled]
      · cases outcome <;> rfl
      · cases outcome <;> rfl
  | callEntry id number arguments =>
      obtain ⟨disposition, entered⟩ := Replay.action_ran Replay.countCall_eq ran
      have served := countDisposition_enterCall entered
      rw [← Replay.view_countCall] at entered
      have counted := Replay.counted_within entered Statistics.countDisposition
      rw [apply, counted, Replay.begin_counted, served]
      exact tells.concat rfl rfl rfl rfl rfl
  | callReturn id call =>
      obtain ⟨value, left⟩ := Replay.action_ran Replay.countEvent_eq ran
      rw [← replay.view_countEvent] at left
      have counted := Replay.counted_within left fun statistics _ => statistics
      rw [apply, counted, Replay.begin_counted]
      exact tells.concat rfl rfl rfl rfl rfl
  | taint address length label? | untaint address length =>
      rw [apply, Replay.changeMemory]
      split
      · exact tells.concat rfl rfl rfl rfl rfl
      · exact tells.concat rfl rfl rfl rfl rfl
  | threadExit id =>
      rw [apply, Reached.done, Replay.endThread]
      split
      · exact tells.concat rfl rfl rfl rfl rfl
      · exact tells.concat rfl rfl rfl rfl rfl

/-- Along a replay, running counts and balances follow its history. -/
theorem applyAll_counts
    {memory : Memory}
    {past : List Event}
    {reached : Replay}
    (ran : analysis.applyAll (Replay.start memory) past = .done reached ()) :
    reached.counted.TellsKinds analysis (analysis.history (Replay.start memory) past) ∧
      reached.Balances analysis (analysis.history (Replay.start memory) past) := by
  induction past using List.reverseRecOn generalizing reached with
  | nil =>
      cases ran
      refine ⟨⟨rfl, rfl, rfl, rfl, rfl⟩, List.nodup_nil, rfl, fun opcode => ?_⟩
      exact Tally.countOf_empty opcode
  | append_singleton earlier event inductionHypothesis =>
      rw [applyAll_concat] at ran
      obtain ⟨middle, value, earlierRan, eventRan⟩ := Reached.andThen_eq_done_iff.1 ran
      obtain ⟨tells, balances⟩ := inductionHypothesis earlierRan
      have applied := apply_tellsKinds tells event (by rw [eventRan]; rfl)
      have balanced := apply_balances balances event (by rw [eventRan]; rfl)
      rw [eventRan] at applied balanced
      rw [history_concat earlierRan]
      exact ⟨applied, balanced⟩

end Analysis

/-! ## Statistics -/

/-- Statistics tell what the events of a replay were, and what came of them. -/
structure Statistics.Tells
    (analysis : Analysis)
    (memory : Memory)
    (past : List Event)
    (statistics : Statistics) : Prop where
  events : statistics.events = past.length
  steps :
    statistics.executed + statistics.skipped + statistics.unhandled = past.countP Event.isStep
  calls : statistics.calls = past.countP Event.isCallEntry
  controlRequests : statistics.controlRequests = past.countP Event.isControlRequest
  opcodes : ∀ opcode,
    statistics.unhandledOpcodes.countOf opcode =
      (analysis.history (Replay.start memory) past).countP fun meeting =>
        meeting.unhandled? analysis == some opcode
  entries : ∀ opcode count,
    (opcode, count) ∈ statistics.unhandledOpcodes.entries ↔
      count = statistics.unhandledOpcodes.countOf opcode ∧ count ≠ 0
  total : (statistics.unhandledOpcodes.entries.map Prod.snd).sum = statistics.unhandled
  /-- A live thread stands in the table once. -/
  live : (analysis.applyAll (Replay.start memory) past).state.threads.Distinct
  threads :
    statistics.threads =
      (analysis.applyAll (Replay.start memory) past).state.threads.threads.length +
        (analysis.history (Replay.start memory) past).countP Meeting.endsThread

/-- What a caller of a replay may do. -/
inductive Demand
  /-- Apply an event. -/
  | apply (event : Event)
  /-- Ask for the statistics so far. -/
  | ask

namespace Demand

/-- The event of a demand to apply one. -/
def event? : Demand -> Option Event
  | apply event => some event
  | ask => none

/-- The events that were applied before each question, after those of the past. -/
def asked (past : List Event) : List Demand -> List (List Event)
  | [] => []
  | apply event :: rest => asked (past ++ [event]) rest
  | ask :: rest => past :: asked past rest

end Demand

namespace Analysis

/-- Serve demands in order. The value is the list of answers. -/
def serve (analysis : Analysis) (replay : Replay) :
    List Demand -> Reached Fault Replay (List Statistics)
  | [] => .done replay []
  | .apply event :: rest =>
      (analysis.apply replay event).andThen fun replay _ => analysis.serve replay rest
  | .ask :: rest =>
      (analysis.serve replay rest).andThen fun reached answers =>
        .done reached (replay.statistics :: answers)

variable {analysis : Analysis} {memory : Memory}

/-- Events of a predicate are counted along the history as in the trace. -/
theorem countP_history (replay : Replay) (events : List Event) (kind : Event -> Bool) :
    (analysis.history replay events).countP (fun meeting => kind meeting.event) =
      events.countP kind := by
  conv => rhs; rw [← analysis.map_event_history replay events, List.countP_map]
  rfl

/-- The statistics of a replay tell what its events were. -/
theorem statistics_tells
    {past : List Event}
    {reached : Replay}
    (ran : analysis.applyAll (Replay.start memory) past = .done reached ()) :
    reached.statistics.Tells analysis memory past := by
  obtain ⟨kinds, balances⟩ := applyAll_counts ran
  have opcodes (opcode : Opcode) := (reached.countOf_statistics opcode).trans
    (balances.opcodes opcode)
  have counted : reached.statistics = { reached.counted with
      unhandledOpcodes := reached.statistics.unhandledOpcodes } := by
    rw [Replay.statistics, Statistics.foldl_takeIn]
  have length := congrArg List.length (analysis.map_event_history (Replay.start memory) past)
  rw [List.length_map] at length
  constructor
  case events => rw [counted, kinds.events, length]
  case steps => rw [counted, kinds.steps, countP_history]
  case calls => rw [counted, kinds.calls, countP_history]
  case controlRequests => rw [counted, kinds.controlRequests, countP_history]
  case opcodes => exact opcodes
  case entries => exact fun opcode count => Tally.mem_entries_iff
  case total =>
    rw [Tally.sum_entries, List.map_congr_left fun opcode _ => opcodes opcode,
      Opcode.sum_countP_all, counted, kinds.unhandled]
  case live =>
    rw [ran]
    exact balances.distinct
  case threads =>
    rw [counted, ran]
    exact balances.threads

/-- Between the events of a replay its statistics may be asked for at any time and any
number of times. Every answer tells of the events before the question, and the events
lead to the same state as without the questions. -/
theorem answers_tell
    {past : List Event}
    {replay reached : Replay}
    {demands : List Demand}
    {answers : List Statistics}
    (ran : analysis.applyAll (Replay.start memory) past = .done replay ())
    (served : analysis.serve replay demands = .done reached answers) :
    analysis.applyAll (Replay.start memory) (past ++ demands.filterMap Demand.event?) =
        .done reached () ∧
      List.Forall₂ (fun statistics earlier => statistics.Tells analysis memory earlier)
        answers (Demand.asked past demands) := by
  induction demands generalizing past replay answers with
  | nil =>
      cases served
      rw [List.filterMap_nil, List.append_nil]
      exact ⟨ran, .nil⟩
  | cons demand rest inductionHypothesis =>
      cases demand with
      | apply event =>
          obtain ⟨next, value, applied, restServed⟩ := Reached.andThen_eq_done_iff.1 served
          have further : analysis.applyAll (Replay.start memory) (past ++ [event]) =
              .done next () := by
            rw [applyAll_concat, ran, Reached.andThen_done, applied]
          have whole := inductionHypothesis further restServed
          rwa [List.append_assoc] at whole
      | ask =>
          obtain ⟨_, later, restServed, answered⟩ := Reached.andThen_eq_done_iff.1 served
          cases answered
          obtain ⟨whole, tell⟩ := inductionHypothesis ran restServed
          exact ⟨whole, .cons (statistics_tells ran) tell⟩

/-- The statistics of a new replay lose nothing and count nothing twice, wherever threads
end and identifiers begin again. To ask for them changes none of them: every answer tells
of the events before the question, as do the statistics at the end. -/
theorem statistics_lose_nothing
    (analysis : Analysis)
    (memory : Memory)
    (demands : List Demand)
    (reached : Replay)
    (answers : List Statistics)
    (served : analysis.serve (Replay.start memory) demands = .done reached answers) :
    let events := demands.filterMap Demand.event?
    analysis.applyAll (Replay.start memory) events = .done reached () ∧
      reached.statistics.Tells analysis memory events ∧
      List.Forall₂ (fun statistics earlier => statistics.Tells analysis memory earlier)
        answers (Demand.asked [] demands) := by
  intro events
  have nothing : analysis.applyAll (Replay.start memory) [] = .done (Replay.start memory) () :=
    analysis.applyAll_nil _
  obtain ⟨ran, tell⟩ := answers_tell nothing served
  rw [List.nil_append] at ran
  exact ⟨ran, statistics_tells ran, tell⟩

/-- A thread ends after a vector instruction, and its identifier begins again. -/
theorem statistics_lose_nothing_reused :
    let vector : Event := .step 1 ⟨0, .vadd, none, .inert⟩ Context.zero
    let query : Event := .callEntry 1 4 [0xFFFFEEEF, 0, 4]
    let demands : List Demand := [.apply vector, .ask, .apply (.threadExit 1),
      .apply (.threadExit 1), .apply vector, .apply query, .ask, .ask]
    let past : List Event := [vector, .threadExit 1, .threadExit 1, vector, query]
    let analysis : Analysis := ⟨AnalysisConfig.standard, [], 1⟩
    let memory : Memory := ⟨0, 16, #[none], by decide, by decide⟩
    ∃ reached answers,
      analysis.serve (Replay.start memory) demands = .done reached answers ∧
      reached.statistics.Tells analysis memory past ∧
      List.Forall₂ (fun statistics earlier => statistics.Tells analysis memory earlier)
        answers [[vector], past, past] := by
  intro vector query demands past analysis memory
  have ended : (analysis.serve (Replay.start memory) demands).result.toBool = true := by
    decide +kernel
  cases ran : (analysis.serve (Replay.start memory) demands).result with
  | error fault =>
      rw [ran] at ended
      cases ended
  | ok answers =>
      have served := Reached.eq_done ran
      exact ⟨_, answers, served, (statistics_lose_nothing analysis memory demands _ _ served).2⟩

end Analysis
end ShadowTaint
