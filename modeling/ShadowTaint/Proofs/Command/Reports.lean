import ShadowTaint.Command.Run
import ShadowTaint.Proofs.Encoding.Fields
import ShadowTaint.Proofs.Json.Layout
import ShadowTaint.Proofs.Trace.Counts
import ShadowTaint.Proofs.Trace.Reading

/-!
# Reports are read as they are printed

An event adds at most one to each count of a replay, and a line of a trace takes at least
one byte unless it holds nothing. So no count of a replay exceeds the number of bytes of its
trace, and the counts of a trace whose length is a number of 64 bits are such numbers. Then
both forms of a report are read as the same value.
-/

namespace ShadowTaint

/-! ## Lines and bytes -/

namespace TraceText

theorem length_linesOnto_le (finished : List (List UInt8)) (current bytes : List UInt8) :
    (linesOnto finished current bytes).length ≤
      finished.length + (if current.isEmpty then 0 else 1) + bytes.length := by
  induction bytes generalizing finished current with
  | nil =>
      rw [linesOnto, List.length_reverse]
      split <;> simp
  | cons byte rest inductionHypothesis =>
      rw [linesOnto]
      split
      · have behind := inductionHypothesis (current.reverse :: finished) []
        simp only [List.isEmpty_nil, if_true, List.length_cons] at behind ⊢
        omega
      · have behind := inductionHypothesis finished (byte :: current)
        simp only [List.isEmpty_cons, Bool.false_eq_true, if_false, List.length_cons] at behind ⊢
        split <;> omega

/-- A trace holds no more events than bytes. -/
theorem length_events_le (bytes : List UInt8) :
    (events (textLines bytes)).length ≤ bytes.length := by
  have sameLength := congrArg List.length (map_lineText?_textLines bytes)
  rw [List.length_map, List.length_map] at sameLength
  have few := length_linesOnto_le [] [] bytes
  simp only [List.length_nil, List.isEmpty_nil, if_true, Nat.zero_add] at few
  calc (events (textLines bytes)).length
      ≤ (textLines bytes).length := List.length_filterMap_le _ _
    _ = (lines bytes).length := sameLength
    _ ≤ bytes.length := few

end TraceText

/-! ## Counts and events -/

/-- Every count is below a limit. -/
structure Statistics.StayBelow (statistics : Statistics) (limit : Nat) : Prop where
  events : statistics.events < limit
  executed : statistics.executed < limit
  skipped : statistics.skipped < limit
  unhandled : statistics.unhandled < limit
  calls : statistics.calls < limit
  controlRequests : statistics.controlRequests < limit
  threads : statistics.threads < limit
  opcodes : ∀ entry ∈ statistics.unhandledOpcodes.entries, entry.2 < limit

namespace Replay

/-- At most one thread begins with an action. -/
theorem threads_within_le
    {counts : Statistics -> Value -> Statistics}
    (keep : ∀ statistics value, (counts statistics value).threads = statistics.threads)
    (replay : Replay)
    (id : UInt32)
    (action : Focus -> Reached Fault Focus Value) :
    (replay.within id action counts).state.counted.threads ≤ replay.counted.threads + 1 := by
  have begun : (replay.begin id).counted.threads ≤ replay.counted.threads + 1 := by
    rw [begin_counted]
    dsimp only
    split <;> omega
  rw [within_eq]
  generalize action (replay.view id) = acted
  obtain ⟨focus, result⟩ := acted
  cases result with
  | ok value =>
      show (counts _ value).threads ≤ _
      rw [keep]
      exact begun
  | error fault => exact begun

end Replay

namespace Analysis

variable {analysis : Analysis}

/-- At most one thread begins with an event. -/
theorem threads_apply_le (analysis : Analysis) (replay : Replay) (event : Event) :
    (analysis.apply replay event).state.counted.threads ≤ replay.counted.threads + 1 := by
  cases event with
  | step id instr context =>
      exact replay.countEvent.threads_within_le (fun _ outcome => by cases outcome <;> rfl) _ _
  | callEntry id number arguments =>
      exact replay.countEvent.countCall.threads_within_le
        (fun _ disposition => by cases disposition <;> rfl) _ _
  | callReturn id call => exact replay.countEvent.threads_within_le (fun _ _ => rfl) _ _
  | taint address length label? | untaint address length =>
      rw [apply, Replay.changeMemory]
      split <;> exact Nat.le_succ _
  | threadExit id =>
      rw [apply, Reached.done, Replay.endThread]
      split <;> exact Nat.le_succ _

/-- No more threads have begun than there were events. -/
theorem threads_applyAll_le
    {replay next : Replay}
    {events : List Event}
    (ran : analysis.applyAll replay events = .done next ()) :
    next.counted.threads ≤ replay.counted.threads + events.length := by
  induction events generalizing replay with
  | nil =>
      cases ran
      exact Nat.le_refl _
  | cons event rest inductionHypothesis =>
      obtain ⟨middle, _, applied, restRan⟩ := Reached.andThen_eq_done_iff.1 ran
      have begun := analysis.threads_apply_le replay event
      rw [applied] at begun
      have later := inductionHypothesis restRan
      rw [List.length_cons]
      dsimp only [Reached.done] at begun
      omega

/-- The counts of a new replay are below a limit if the number of its events is. -/
theorem statistics_stayBelow
    {memory : Memory}
    {past : List Event}
    {reached : Replay}
    {limit : Nat}
    (ran : analysis.applyAll (Replay.start memory) past = .done reached ())
    (few : past.length < limit) :
    reached.statistics.StayBelow limit := by
  have tells := statistics_tells ran
  have steps := tells.steps.trans_le List.countP_le_length
  have met := congrArg List.length (analysis.map_event_history (Replay.start memory) past)
  rw [List.length_map] at met
  constructor
  case events => exact tells.events ▸ few
  case executed => omega
  case skipped => omega
  case unhandled => omega
  case calls => exact Nat.lt_of_le_of_lt (tells.calls.trans_le List.countP_le_length) few
  case controlRequests =>
    exact Nat.lt_of_le_of_lt (tells.controlRequests.trans_le List.countP_le_length) few
  case threads =>
    have begun := threads_applyAll_le ran
    have counted : reached.statistics.threads = reached.counted.threads := by
      rw [Replay.statistics, Statistics.foldl_takeIn]
    rw [counted]
    have none : (Replay.start memory).counted.threads = 0 := rfl
    omega
  case opcodes =>
    rintro ⟨opcode, count⟩ member
    obtain ⟨counted, -⟩ := (tells.entries opcode count).1 member
    have within := (tells.opcodes opcode).trans_le List.countP_le_length
    show count < limit
    omega

end Analysis

/-! ## Texts of reports -/

namespace Report

variable {report : Report}

theorem fits_statistics
    {statistics : Statistics}
    (small : statistics.StayBelow UInt64.size)
    (room : Nat) :
    Json.Fits (room + 2) statistics.toJson := by
  have opcodes : Json.Fits (room + 1) statistics.unhandledOpcodes.toJson := by
    refine .object fun member listed => ?_
    obtain ⟨entry, inEntries, rfl⟩ := List.mem_map.1 listed
    exact .natural _ (small.opcodes entry inEntries)
  refine .object ?_
  simp only [List.forall_mem_cons]
  exact ⟨.natural _ small.events, .natural _ small.executed, .natural _ small.skipped,
    .natural _ small.unhandled, .natural _ small.calls, .natural _ small.controlRequests,
    .natural _ small.threads, opcodes, List.forall_mem_nil _⟩

theorem fits_jump (room : Nat) (jump : TaintedJump) : Json.Fits (room + 1) jump.toJson := by
  refine .object ?_
  simp only [List.forall_mem_cons]
  exact ⟨.uint32 _ _, .string _ _, .uint32 _ _, List.forall_mem_nil _⟩

theorem fits_access (room : Nat) (access : TaintedAccess) :
    Json.Fits (room + 1) access.toJson := by
  refine .object ?_
  simp only [List.forall_mem_cons]
  exact ⟨.uint32 _ _, .string _ _, .string _ _, .uint32 _ _, .boolean _ _, List.forall_mem_nil _⟩

/-- A report with small counts can be written and read. -/
theorem fits (small : report.statistics.StayBelow UInt64.size) :
    Json.Fits Json.depthLimit report.toJson := by
  refine .object ?_
  simp only [List.forall_mem_cons]
  exact ⟨fits_statistics small 124, .list _ (fits_jump 124), .list _ (fits_access 124),
    List.forall_mem_nil _⟩

end Report

namespace Invocation

/-- Both forms of a report of a trace are read as the report. -/
theorem read_render
    {analysis : Analysis}
    {memory : Memory}
    {bytes : List UInt8}
    {reached : Replay}
    (ran : analysis.applyAll (Replay.start memory) (TraceText.events (TraceText.textLines bytes)) =
      .done reached ())
    (short : bytes.length < UInt64.size)
    (invocation : Invocation) :
    Json.read (invocation.render reached.report).toList = some reached.report.toJson := by
  have few := Nat.lt_of_le_of_lt (TraceText.length_events_le bytes) short
  have fits : Json.Fits Json.depthLimit reached.report.toJson :=
    Report.fits (Analysis.statistics_stayBelow ran few)
  rw [render]
  split
  · exact fits.read_pretty
  · exact fits.read_compact

end Invocation
end ShadowTaint
