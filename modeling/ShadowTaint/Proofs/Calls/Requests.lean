import ShadowTaint.Proofs.Calls.Pending
import ShadowTaint.Proofs.Calls.Return
import ShadowTaint.Proofs.Shadow.History
import ShadowTaint.Proofs.Threads.Names
import ShadowTaint.Proofs.Trace.Balances

/-!
# The control channel

A request that a program carries in a call does to memory what the tracer's event of the
same meaning does, and to its thread nothing but clean the result register. Without
instructions in between, memory is written by requests, by the tracer, and by calls that
return. Each of them leaves one label at every byte that it covers, so a query answers for
the labels that were left last.
-/

namespace ShadowTaint

/-! ## Labels that events leave -/

/-- An event leaves a label at an address. -/
inductive Event.Leaves (analysis : Analysis) (address : Nat) : Event -> UInt8 -> Prop
  | taint {first length : UInt32} (label? : Option UInt8)
      (covers : Span.Contains ⟨first, length.toNat⟩ address) :
      Leaves analysis address (.taint first length label?)
        (label?.getD analysis.config.defaultLabel)
  | untaint {first length : UInt32} (covers : Span.Contains ⟨first, length.toNat⟩ address) :
      Leaves analysis address (.untaint first length) 0
  | taintRequest {first length number : UInt32} {arguments : List UInt32} (id : UInt32)
      (carried : ControlRequest.CarriedBy ⟨.taint, first, length⟩ number arguments)
      (covers : Span.Contains ⟨first, length.toNat⟩ address) :
      Leaves analysis address (.callEntry id number arguments) analysis.config.defaultLabel
  | clearRequest {first length number : UInt32} {arguments : List UInt32} (id : UInt32)
      (carried : ControlRequest.CarriedBy ⟨.clear, first, length⟩ number arguments)
      (covers : Span.Contains ⟨first, length.toNat⟩ address) :
      Leaves analysis address (.callEntry id number arguments) 0
  /-- An output of a source is labelled, and any other output is clean. -/
  | output {call : CallReturn} (id : UInt32) (fills : call.Fills address) :
      Leaves analysis address (.callReturn id call) (analysis.filledLabel call.number)

/-- The last event that has left a label at an address has left this one. -/
def LastLeft (analysis : Analysis) (past : List Event) (address : Nat) (label : UInt8) : Prop :=
  Since (fun event : Event => ∀ other, ¬event.Leaves analysis address other)
    (fun writer => writer.Leaves analysis address label) past

namespace Span

/-- Filling a range leaves its label at the addresses of the range. -/
theorem lookup_journal_eq_some_iff {span : Span} {stored label : UInt8} {address : Nat} :
    (span.journal stored).lookup address = some label ↔
      span.Contains address ∧ stored = label := by
  rw [journal, Journal.lookup_ofRange, Contains]
  split
  · rename_i inside
    simp [inside]
  · rename_i outside
    simp [outside]

end Span

namespace Event

/-- The labels that an event leaves that is no instruction. -/
def journal (analysis : Analysis) : Event -> Journal
  | callEntry _ number arguments =>
      match ControlRequest.ofCall? number arguments with
      | some request => request.journal analysis.config.defaultLabel
      | none => []
  | callReturn _ call => analysis.returnJournal call
  | taint address length label? =>
      Span.journal (label?.getD analysis.config.defaultLabel) ⟨address, length.toNat⟩
  | untaint address length => Span.journal 0 ⟨address, length.toNat⟩
  | step _ _ _ | threadExit _ => []

theorem lookup_journal_eq_some_iff
    {analysis : Analysis}
    {event : Event}
    {address : Nat}
    {label : UInt8} :
    (event.journal analysis).lookup address = some label ↔
      event.Leaves analysis address label := by
  cases event with
  | callEntry id number arguments =>
      rw [journal]
      cases carried : ControlRequest.ofCall? number arguments with
      | none =>
          have carriesNone := ControlRequest.ofCall?_eq_none_iff.1 carried
          refine iff_of_false nofun ?_
          rintro (_ | _ | ⟨_, carries, _⟩ | ⟨_, carries, _⟩)
          · exact carriesNone ⟨_, carries⟩
          · exact carriesNone ⟨_, carries⟩
      | some request =>
          have carries := ControlRequest.ofCall?_eq_some_iff.1 carried
          have same {other : ControlRequest} (also : other.CarriedBy number arguments) :
              other = request := by
            rw [← ControlRequest.ofCall?_eq_some_iff, carried] at also
            exact (Option.some.inj also).symm
          obtain ⟨kind, first, length⟩ := request
          dsimp only [ControlRequest.journal]
          cases kind with
          | taint =>
              dsimp only
              rw [Span.lookup_journal_eq_some_iff]
              constructor
              · rintro ⟨covers, rfl⟩
                exact .taintRequest id carries covers
              · rintro (_ | _ | ⟨_, also, covers⟩ | ⟨_, also, _⟩)
                · cases same also
                  exact ⟨covers, rfl⟩
                · cases same also
          | clear =>
              dsimp only
              rw [Span.lookup_journal_eq_some_iff]
              constructor
              · rintro ⟨covers, rfl⟩
                exact .clearRequest id carries covers
              · rintro (_ | _ | ⟨_, also, _⟩ | ⟨_, also, covers⟩)
                · cases same also
                · cases same also
                  exact ⟨covers, rfl⟩
          | query =>
              refine iff_of_false nofun ?_
              rintro (_ | _ | ⟨_, also, _⟩ | ⟨_, also, _⟩)
              · cases same also
              · cases same also
  | callReturn id call =>
      rw [journal]
      by_cases fills : call.Fills address
      · rw [Analysis.lookup_returnJournal fills]
        constructor
        · intro stored
          cases stored
          exact .output id fills
        · rintro ⟨_, _⟩
          rfl
      · rw [Journal.lookup_eq_none fun written =>
          fills (Analysis.writes_returnJournal_iff.1 written)]
        refine iff_of_false nofun ?_
        rintro (_ | _ | _ | _ | ⟨_, filled⟩)
        exact fills filled
  | taint first length label? =>
      rw [journal, Span.lookup_journal_eq_some_iff]
      constructor
      · rintro ⟨covers, rfl⟩
        exact .taint label? covers
      · rintro ⟨_, covers⟩
        exact ⟨covers, rfl⟩
  | untaint first length =>
      rw [journal, Span.lookup_journal_eq_some_iff]
      constructor
      · rintro ⟨covers, rfl⟩
        exact .untaint covers
      · rintro ⟨covers⟩
        exact ⟨‹_›, rfl⟩
  | step _ _ _ | threadExit _ => exact iff_of_false nofun nofun

end Event

/-- The journals of a history give an address the label that was left there last. -/
theorem lookup_journals_eq_some_iff
    {analysis : Analysis}
    {past : List Event}
    {address : Nat}
    {label : UInt8} :
    (Journal.inOrder (past.map (Event.journal analysis))).lookup address = some label ↔
      LastLeft analysis past address label := by
  induction past using List.reverseRecOn with
  | nil => exact iff_of_false nofun not_since_nil
  | append_singleton earlier event inductionHypothesis =>
      have joined : Journal.inOrder ((earlier ++ [event]).map (Event.journal analysis)) =
          event.journal analysis ++
            Journal.inOrder (earlier.map (Event.journal analysis)) := by
        simp [Journal.inOrder]
      rw [joined, List.lookup_append, LastLeft, since_concat, Option.or_eq_some_iff,
        inductionHypothesis, Event.lookup_journal_eq_some_iff, Option.eq_none_iff_forall_ne_some]
      simp only [ne_eq, Event.lookup_journal_eq_some_iff]
      exact or_comm.trans (or_congr_left and_comm)

/-! ## What requests do -/

namespace ControlRequest

/-- The events of a tracer that mean the same as a request; a query changes nothing. -/
def events (request : ControlRequest) : List Event :=
  match request.kind with
  | .taint => [.taint request.address request.length none]
  | .clear => [.untaint request.address request.length]
  | .query => []

end ControlRequest

namespace Analysis

variable {analysis : Analysis} {replay : Replay}

theorem changeMemory_done
    {change : Memory -> Except Fault Memory}
    {memory : Memory}
    (changed : change replay.memory = .ok memory) :
    replay.changeMemory change = .done { replay with memory := memory } () := by
  rw [Replay.changeMemory, changed]

/-- The events that mean the same as a request do to memory what the request does. -/
theorem applyAll_events
    {request : ControlRequest}
    {after : Memory}
    {status : UInt32}
    (served : request.serve replay.memory analysis.config.defaultLabel = .ok (after, status)) :
    ∃ reached, analysis.applyAll replay request.events = .done reached () ∧
      reached.memory = after := by
  obtain ⟨kind, address, length⟩ := request
  cases kind with
  | taint =>
      cases filled : replay.memory.fill address length analysis.config.defaultLabel with
      | error fault =>
          rw [ControlRequest.serve, filled] at served
          cases served
      | ok marked =>
          rw [ControlRequest.serve, filled] at served
          cases served
          refine ⟨{ replay.countEvent with memory := after }, ?_, rfl⟩
          rw [ControlRequest.events, applyAll, apply, changeMemory_done filled]
          rfl
  | clear =>
      cases cleaned : replay.memory.clean address length with
      | error fault =>
          rw [ControlRequest.serve, cleaned] at served
          cases served
      | ok cleared =>
          rw [ControlRequest.serve, cleaned] at served
          cases served
          refine ⟨{ replay.countEvent with memory := after }, ?_, rfl⟩
          rw [ControlRequest.events, applyAll, apply, changeMemory_done cleaned]
          rfl
  | query =>
      cases asked : replay.memory.isTainted address length with
      | error fault =>
          rw [ControlRequest.serve, asked] at served
          cases served
      | ok tainted =>
          rw [ControlRequest.serve, asked] at served
          cases served
          exact ⟨replay, rfl, rfl⟩

theorem changeMemory_records
    {change : Memory -> Except Fault Memory}
    {journal : Journal}
    (stores : ∀ after, change replay.memory = .ok after -> replay.memory.Records journal after)
    (ran : (replay.changeMemory change).result = .ok ()) :
    replay.memory.Records journal (replay.changeMemory change).state.memory := by
  cases changed : change replay.memory with
  | ok after =>
      rw [changeMemory_done changed]
      exact stores after changed
  | error fault =>
      rw [Replay.changeMemory, changed] at ran
      cases ran

/-- An event that is no instruction stores its journal. -/
theorem apply_records
    {event : Event}
    (noStep : event.isStep = false)
    (ran : (analysis.apply replay event).result = .ok ()) :
    replay.memory.Records (event.journal analysis) (analysis.apply replay event).state.memory := by
  cases event with
  | step id instr context => cases noStep
  | callEntry id number arguments =>
      obtain ⟨disposition, entered⟩ := Replay.action_ran Replay.countCall_eq ran
      rw [apply, Replay.memory_within, Replay.view_countCall, Event.journal]
      have stored : (replay.countEvent.view id).memory = replay.memory := Replay.memory_view ..
      rw [← stored]
      cases carried : ControlRequest.ofCall? number arguments with
      | none => exact (enterCall_proceeds carried _).memory
      | some request => exact (enterCall_served carried entered).memory
  | callReturn id call =>
      obtain ⟨_, left⟩ := Replay.action_ran Replay.countEvent_eq ran
      rw [apply, Replay.memory_within, Replay.view_countEvent]
      have records := (leaveCall_done left).memory
      rwa [Replay.memory_view] at records
  | taint address length label? =>
      rw [apply] at ran ⊢
      exact changeMemory_records (fun _ filled => Memory.fill_records filled) ran
  | untaint address length =>
      rw [apply] at ran ⊢
      exact changeMemory_records (fun _ cleaned => Memory.fill_records cleaned) ran
  | threadExit id =>
      rw [apply, Reached.done, Replay.memory_endThread]
      exact .refl _

/-- Events that are no instructions store their journals in order. -/
theorem applyAll_records
    {past : List Event}
    {reached : Replay}
    (noSteps : ∀ event ∈ past, event.isStep = false)
    (ran : analysis.applyAll replay past = .done reached ()) :
    replay.memory.Records (.inOrder (past.map (Event.journal analysis))) reached.memory := by
  induction past generalizing replay with
  | nil =>
      cases ran
      exact .refl _
  | cons event rest inductionHypothesis =>
      obtain ⟨next, _, eventRan, restRan⟩ := Reached.andThen_eq_done_iff.1 ran
      have earlier := apply_records (noSteps event List.mem_cons_self)
        (congrArg Reached.result eventRan)
      rw [eventRan] at earlier
      rw [List.map_cons, Journal.inOrder_cons]
      exact earlier.trans (inductionHypothesis
        (fun other member => noSteps other (List.mem_cons_of_mem _ member)) restRan)

/-- Without instructions, a mapped byte is tainted if the last label that was left there is not
zero. -/
theorem label_eq_iff_lastLeft
    {memory : Memory}
    {past : List Event}
    {address : Nat}
    {label : UInt8}
    (created : analysis.createMemory = .ok memory)
    (noSteps : ∀ event ∈ past, event.isStep = false)
    (ran : analysis.applyAll (Replay.start memory) past = .done replay ())
    (mapped : replay.memory.labels.base ≤ address)
    (tainted : label ≠ 0) :
    replay.memory.labels.label address = label ↔ LastLeft analysis past address label := by
  have records := applyAll_records noSteps ran
  have clean : memory.labels = LabelMap.clean _ _ := Memory.labels_of_create created
  have inside : memory.base.toNat ≤ address := by
    change replay.memory.base.toNat ≤ address at mapped
    rwa [records.base] at mapped
  rw [records.label_eq_getD inside, ← lookup_journals_eq_some_iff]
  show Option.getD _ (memory.labels.label address) = label ↔ _
  rw [clean, LabelMap.clean]
  cases List.lookup address (Journal.inOrder (past.map (Event.journal analysis))) with
  | none => simp [Ne.symm tainted]
  | some stored => simp

end Analysis

/-! ## Entering a call -/

/-- A replay after a request was served: the result register of the thread is clean, memory is
as behind the events that mean the same, and everything else stays. -/
structure ServedFor
    (analysis : Analysis)
    (replay : Replay)
    (id : UInt32)
    (request : ControlRequest)
    (after : Replay) : Prop where
  thread : after.threads.find? id =
    some ((replay.view id).thread.setRegister Reg.r0 Lanes.clean)
  others : ∀ other, other ≠ id -> after.threads.find? other = replay.threads.find? other
  memory : ∃ reached, analysis.applyAll replay request.events = .done reached () ∧
    reached.memory = after.memory
  findings : after.findings = replay.findings

/-- A replay after a call was left to the kernel: it is pending in its thread, and everything
else stays. -/
structure LeftToKernel (replay : Replay) (id number : UInt32) (after : Replay) : Prop where
  thread : after.threads.find? id =
    some { (replay.view id).thread with pendingCall := some number }
  others : ∀ other, other ≠ id -> after.threads.find? other = replay.threads.find? other
  memory : after.memory = replay.memory
  findings : after.findings = replay.findings

theorem LabelMap.isTainted_iff {map : LabelMap} {first length : Nat} :
    map.isTainted first length = true ↔
      ∃ address, first ≤ address ∧ address < first + length ∧ map.label address ≠ 0 := by
  simp only [isTainted, slice, List.any_map, List.any_eq_true, List.mem_range, Function.comp,
    bne_iff_ne]
  constructor
  · rintro ⟨position, inside, tainted⟩
    exact ⟨first + position, by omega, by omega, tainted⟩
  · rintro ⟨address, lower, upper, tainted⟩
    refine ⟨address - first, by omega, ?_⟩
    rwa [show first + (address - first) = address by omega]

namespace Analysis

variable {analysis : Analysis} {replay after : Replay} {id number : UInt32}
  {arguments : List UInt32} {request : ControlRequest}

/-- A call that was entered has left its deed in the replay. -/
theorem callEntry_done
    {deed : Deed CallDisposition}
    (named : deed.thread.id = id)
    (done : deed.Done (replay.view id) (analysis.enterCall number arguments (replay.view id)))
    (ran : analysis.apply replay (.callEntry id number arguments) = .done after ()) :
    analysis.disposition? replay (.callEntry id number arguments) = some (.ok deed.value) ∧
      after.threads.find? id = some deed.thread ∧
      (∀ other, other ≠ id -> after.threads.find? other = replay.threads.find? other) ∧
      after.findings = replay.findings.append deed.findings ∧
      after.memory = (analysis.enterCall number arguments (replay.view id)).state.memory := by
  have sameView : replay.countEvent.countCall.view id = replay.view id := by simp
  have acted := done
  rw [← sameView] at acted
  have entered := Replay.within_done Statistics.countDisposition_eq named acted
  have memory : (replay.countEvent.countCall.within id (analysis.enterCall number arguments)
      Statistics.countDisposition).state.memory = _ := Replay.memory_within
  have within : replay.countEvent.countCall.within id (analysis.enterCall number arguments)
      Statistics.countDisposition = .done after () := ran
  rw [within] at entered memory
  have threads (other : UInt32) := congrArg (ThreadTable.find? · other) entered.threads
  simp only [Effect.find?_leave] at threads
  refine ⟨congrArg some done.result, ?_, ?_, entered.findings, ?_⟩
  · exact (threads id).trans (if_pos named.symm)
  · intro other different
    exact (threads other).trans (if_neg fun same => different (same.trans named))
  · rw [← sameView]
    exact memory

/-- A call that carries a request is answered with the status of the request. -/
theorem callEntry_served
    (carried : request.CarriedBy number arguments)
    (ran : analysis.apply replay (.callEntry id number arguments) = .done after ()) :
    analysis.disposition? replay (.callEntry id number arguments) =
        some (.ok (.emulated (request.status replay.memory.labels))) ∧
      ServedFor analysis replay id request after := by
  have found := ControlRequest.ofCall?_eq_some_iff.2 carried
  obtain ⟨_, entered⟩ := Replay.action_ran Replay.countCall_eq (congrArg Reached.result ran)
  rw [Replay.view_countEvent] at entered
  have named : (analysis.requestDeed request (replay.view id)).thread.id = id :=
    replay.id_view id
  obtain ⟨answer, thread, others, findings, memory⟩ :=
    callEntry_done named (enterCall_served found entered) ran
  rw [enterCall, found] at entered memory
  dsimp only at entered memory
  cases serving : request.serve (replay.view id).memory analysis.config.defaultLabel with
  | error fault =>
      rw [serving] at entered
      cases entered
  | ok served =>
      rw [serving] at memory
      rw [Replay.memory_view] at serving
      rw [requestDeed, Replay.memory_view] at answer
      obtain ⟨reached, reaches, same⟩ := applyAll_events serving
      exact ⟨answer, thread, others, ⟨reached, reaches, same.trans memory.symm⟩,
        findings.trans (Findings.append_none _)⟩

theorem callEntry_leftToKernel
    (carriesNone : ¬∃ request : ControlRequest, request.CarriedBy number arguments)
    (ran : analysis.apply replay (.callEntry id number arguments) = .done after ()) :
    analysis.disposition? replay (.callEntry id number arguments) = some (.ok .proceed) ∧
      LeftToKernel replay id number after := by
  have carried := ControlRequest.ofCall?_eq_none_iff.2 carriesNone
  have named : (proceedDeed (replay.view id).thread number).thread.id = id := replay.id_view id
  obtain ⟨answer, thread, others, findings, memory⟩ :=
    callEntry_done named (enterCall_proceeds carried (replay.view id)) ran
  rw [enterCall, carried] at memory
  exact ⟨answer, thread, others, memory.trans (replay.memory_view id),
    findings.trans (Findings.append_none _)⟩

/-- The range of a request that was served is mapped. -/
theorem covers_of_served
    (carried : request.CarriedBy number arguments)
    (ran : analysis.apply replay (.callEntry id number arguments) = .done after ()) :
    replay.memory.labels.Covers request.address.toNat request.length.toNat := by
  apply Classical.not_not.1
  intro outside
  have keeps := apply_ran_iff.1 (congrArg Reached.result ran)
  exact keeps ⟨request, ControlRequest.ofCall?_eq_some_iff.2 carried, outside⟩

/-- A query answers that its range is tainted if some byte of it was last left with a nonzero
label, and otherwise zero. -/
theorem status_query
    {memory : Memory}
    {past : List Event}
    {address length : UInt32}
    (created : analysis.createMemory = .ok memory)
    (noSteps : ∀ event ∈ past, event.isStep = false)
    (ran : analysis.applyAll (Replay.start memory) past = .done replay ())
    (covers : replay.memory.labels.Covers address.toNat length.toNat) :
    ((∃ byte label, Span.Contains ⟨address, length.toNat⟩ byte ∧
        LastLeft analysis past byte label ∧ label ≠ 0) ∧
      ControlRequest.status ⟨.query, address, length⟩ replay.memory.labels = 0xAA) ∨
    ((¬∃ byte label, Span.Contains ⟨address, length.toNat⟩ byte ∧
        LastLeft analysis past byte label ∧ label ≠ 0) ∧
      ControlRequest.status ⟨.query, address, length⟩ replay.memory.labels = 0) := by
  have tainted : replay.memory.labels.isTainted address.toNat length.toNat = true ↔
      ∃ byte label, Span.Contains ⟨address, length.toNat⟩ byte ∧
        LastLeft analysis past byte label ∧ label ≠ 0 := by
    rw [LabelMap.isTainted_iff]
    have mapped (byte : Nat) (contained : Span.Contains ⟨address, length.toNat⟩ byte) :
        replay.memory.labels.base ≤ byte := by
      obtain ⟨lower, upper⟩ := contained
      dsimp only at lower upper
      obtain empty | ⟨first, -⟩ := covers <;> omega
    constructor
    · rintro ⟨byte, lower, upper, nonzero⟩
      refine ⟨byte, _, ⟨lower, upper⟩, ?_, nonzero⟩
      exact (label_eq_iff_lastLeft created noSteps ran (mapped byte ⟨lower, upper⟩) nonzero).1 rfl
    · rintro ⟨byte, label, contained, left, nonzero⟩
      refine ⟨byte, contained.1, contained.2, ?_⟩
      rwa [(label_eq_iff_lastLeft created noSteps ran (mapped byte contained) nonzero).2 left]
  rw [← tainted]
  dsimp only [ControlRequest.status]
  cases replay.memory.labels.isTainted address.toNat length.toNat with
  | true => exact .inl ⟨rfl, rfl⟩
  | false => exact .inr ⟨Bool.false_ne_true, rfl⟩

/-- The control channel after any events of a new replay. A call is emulated exactly if it
carries a request, and then it does to memory what the tracer's event of the same meaning does,
and to its thread nothing but clean the result register; any other call is left to the kernel
and becomes pending. Without instructions, a query answers that its range is tainted if some
byte of it was last left with a nonzero label. A live thread remembers the call that its
incarnation has left to the kernel last, until a call of it returns. -/
theorem control_channel_protocol
    (analysis : Analysis)
    (memory : Memory)
    (past : List Event)
    (replay : Replay)
    (created : analysis.createMemory = .ok memory)
    (ran : analysis.applyAll (Replay.start memory) past = .done replay ()) :
    (∀ id number arguments after,
      analysis.apply replay (.callEntry id number arguments) = .done after () →
      ((∃ status, analysis.disposition? replay (.callEntry id number arguments) =
          some (.ok (.emulated status))) ↔
        ∃ request : ControlRequest, request.CarriedBy number arguments) ∧
      (∀ request : ControlRequest, request.CarriedBy number arguments →
        ServedFor analysis replay id request after) ∧
      ((¬∃ request : ControlRequest, request.CarriedBy number arguments) →
        LeftToKernel replay id number after)) ∧
    ((∀ event ∈ past, event.isStep = false) →
      ∀ id number arguments address length after,
        ControlRequest.CarriedBy ⟨.query, address, length⟩ number arguments →
        analysis.apply replay (.callEntry id number arguments) = .done after () →
        ∃ status,
          analysis.disposition? replay (.callEntry id number arguments) =
            some (.ok (.emulated status)) ∧
          (status = 0xAA ∨ status = 0) ∧
          (status = 0xAA ↔
            ∃ byte label, Span.Contains ⟨address, length.toNat⟩ byte ∧
              LastLeft analysis past byte label ∧ label ≠ 0) ∧
          (length = 0 → status = 0)) ∧
    ∀ id thread, replay.threads.find? id = some thread →
      ∀ number, thread.pendingCall = some number ↔ IsPending past id number := by
  refine ⟨?entered, ?queried, ?pending⟩
  case entered =>
    intro id number arguments after entered
    by_cases carries : ∃ request : ControlRequest, request.CarriedBy number arguments
    · obtain ⟨request, carried⟩ := carries
      refine ⟨iff_of_true ⟨_, (callEntry_served carried entered).1⟩ ⟨request, carried⟩, ?_,
        fun carriesNone => absurd ⟨request, carried⟩ carriesNone⟩
      exact fun other also => (callEntry_served also entered).2
    · have proceeds := callEntry_leftToKernel carries entered
      refine ⟨iff_of_false ?_ carries, fun other also => absurd ⟨other, also⟩ carries,
        fun _ => proceeds.2⟩
      rw [proceeds.1]
      rintro ⟨status, same⟩
      cases same
  case queried =>
    intro noSteps id number arguments address length after carried entered
    have status := status_query created noSteps ran (covers_of_served carried entered)
    refine ⟨_, (callEntry_served carried entered).1, ?_, ?_, ?_⟩
    · exact status.imp And.right And.right
    · obtain ⟨left, answer⟩ | ⟨notLeft, answer⟩ := status
      · exact iff_of_true answer left
      · exact iff_of_false (by rw [answer]; decide) notLeft
    · rintro rfl
      obtain ⟨⟨byte, label, ⟨lower, upper⟩, -⟩, -⟩ | ⟨-, answer⟩ := status
      · exact absurd (Nat.lt_of_le_of_lt lower upper) (Nat.lt_irrefl _)
      · exact answer
  case pending =>
    intro id thread live number
    have remembers := pendingCall_applyAll ran id
    rw [Replay.thread_view, live, Option.getD_some] at remembers
    rw [remembers, foldl_pending_eq_some_iff]

/-- A request taints eight bytes, a call overwrites two of them, and another call is entered
from which the thread does not return. -/
theorem control_channel_protocol_overwritten :
    let call : CallReturn := ⟨3, true, some [⟨.output, 18, 2⟩]⟩
    let past : List Event := [.callEntry 1 4 [0xFFFFEEEE, 16, 8], .callEntry 1 3 [0, 18, 2],
      .callReturn 1 call, .callEntry 1 6 [], .callEntry 1 4 [0xFFFFEEED, 40, 4]]
    let analysis : Analysis := ⟨{ AnalysisConfig.standard with shadowSize := 64 }, [], 0⟩
    let memory : Memory := ⟨0, 64, #[none], by decide, by decide⟩
    ∃ replay thread, analysis.applyAll (Replay.start memory) past = .done replay () ∧
      analysis.disposition? replay (.callEntry 2 4 [0xFFFFEEEF, 17, 2]) =
        some (.ok (.emulated 0xAA)) ∧
      analysis.disposition? replay (.callEntry 2 4 [0xFFFFEEEF, 18, 2]) =
        some (.ok (.emulated 0)) ∧
      replay.threads.find? 1 = some thread ∧ thread.pendingCall = some 6 := by
  intro call past analysis memory
  have created : analysis.createMemory = .ok memory := by
    have pages : Array.replicate (pageCount (64 : UInt64).toNat) (none : Option Page) =
        #[none] := by
      rw [show pageCount (64 : UInt64).toNat = 1 by decide]
      rfl
    show Memory.create 0 64 = _
    rw [Memory.create, dif_pos (by decide)]
    simp only [pages]
    rfl
  have ended : (analysis.applyAll (Replay.start memory) past).result.toBool = true := by
    decide +kernel
  have live : ((analysis.applyAll (Replay.start memory) past).state.threads.find? 1).isSome =
      true := by
    decide +kernel
  obtain ⟨thread, found⟩ := Option.isSome_iff_exists.1 live
  cases result : (analysis.applyAll (Replay.start memory) past).result with
  | error fault =>
      rw [result] at ended
      cases ended
  | ok =>
      have ran := Reached.eq_done result
      generalize (analysis.applyAll (Replay.start memory) past).state = replay at ran found
      obtain ⟨-, queried, pending⟩ :=
        control_channel_protocol analysis memory past replay created ran
      have noSteps : ∀ event ∈ past, event.isStep = false := by decide
      have records := applyAll_records noSteps ran
      have left (address : Nat) (label : UInt8) :
          LastLeft analysis past address label ↔
            (Journal.inOrder (past.map (Event.journal analysis))).lookup address = some label :=
        lookup_journals_eq_some_iff.symm
      have extent : replay.memory.extent = ⟨0, 64⟩ := by
        rw [Memory.extent, records.base, records.size]
        rfl
      have query (first : UInt32) (low : first.toNat + 2 ≤ 64) :
          ∃ status, analysis.disposition? replay (.callEntry 2 4 [0xFFFFEEEF, first, 2]) =
              some (.ok (.emulated status)) ∧
            (status = 0xAA ∨ status = 0) ∧
            (status = 0xAA ↔ ∃ byte label, Span.Contains ⟨first, 2⟩ byte ∧
              LastLeft analysis past byte label ∧ label ≠ 0) := by
        have entered :
            (analysis.apply replay (.callEntry 2 4 [0xFFFFEEEF, first, 2])).result = .ok () := by
          rw [apply_ran_iff, extent]
          rintro ⟨request, carried, outside⟩
          cases carried
          exact outside (.inr ⟨Nat.zero_le _, (Nat.zero_add 64).symm ▸ low⟩)
        obtain ⟨status, answer, either, tainted, -⟩ :=
          queried noSteps 2 4 [0xFFFFEEEF, first, 2] first 2 _ ⟨rfl, [], rfl⟩
            (Reached.eq_done entered)
        exact ⟨status, answer, either, tainted⟩
      refine ⟨replay, thread, ran, ?_, ?_, found, ?_⟩
      · obtain ⟨status, answer, -, tainted⟩ := query 17 (by decide)
        rw [answer, tainted.2 ⟨17, 1, ⟨by decide, by decide⟩, (left 17 1).2 (by decide), by decide⟩]
      · obtain ⟨status, answer, either, tainted⟩ := query 18 (by decide)
        have cleaned (byte : Nat) (inside : byte = 18 ∨ byte = 19) :
            (Journal.inOrder (past.map (Event.journal analysis))).lookup byte = some 0 := by
          obtain rfl | rfl := inside <;> decide
        have clean : ¬∃ byte label, Span.Contains ⟨18, 2⟩ byte ∧
            LastLeft analysis past byte label ∧ label ≠ 0 := by
          rintro ⟨byte, label, ⟨lower, upper⟩, last, nonzero⟩
          change 18 ≤ byte at lower
          change byte < 20 at upper
          rw [left, cleaned byte (by omega)] at last
          cases last
          exact nonzero rfl
        rw [answer, either.resolve_left (mt tainted.1 clean)]
      · exact (pending 1 thread found 6).2 (foldl_pending_eq_some_iff.1 (by decide))

end Analysis
end ShadowTaint
