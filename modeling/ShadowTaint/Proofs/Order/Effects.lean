import ShadowTaint.Proofs.Access.Contract
import ShadowTaint.Proofs.Order.Deeds

/-!
# What an event does

An event of a thread leaves or ends the thread, adds counts and findings, and stores a
journal of labels: its effect. Which effect that is depends on the thread's own state and
on the labels that the event's footprint reads. Everything else in a replay is the same
before and after, so an event of another thread whose writes are not read does not change
the effect.
-/

namespace ShadowTaint

/-- What an event of a thread does to a replay. -/
structure Effect where
  id : UInt32
  /-- The thread that it leaves, unless the thread ends. -/
  thread : Option Thread
  named : ∀ left ∈ thread, left.id = id
  counted : Statistics
  findings : Findings
  journal : Journal

namespace Effect

/-- The live threads behind an effect. -/
def leave (effect : Effect) (table : ThreadTable) : ThreadTable :=
  match effect.thread with
  | some thread => table.insert thread
  | none => table.erase effect.id

/-- An event has had an effect. -/
structure Done
    (effect : Effect)
    (before : Replay)
    (reached : Reached Fault Replay Unit) : Prop where
  result : reached.result = .ok ()
  threads : reached.state.threads = effect.leave before.threads
  counted : reached.state.counted = before.counted.add effect.counted
  findings : reached.state.findings = before.findings.append effect.findings
  memory : before.memory.Records effect.journal reached.state.memory

/-- An effect touches the entry of its own thread only. -/
theorem find?_leave (effect : Effect) (table : ThreadTable) (id : UInt32) :
    (effect.leave table).find? id = if id = effect.id then effect.thread else table.find? id := by
  rw [leave]
  cases left : effect.thread with
  | none => exact ThreadTable.find?_erase ..
  | some thread =>
      dsimp only
      rw [ThreadTable.find?_insert, effect.named thread left]

/-- An effect with what was counted before it. -/
def counting (effect : Effect) (extra : Statistics) : Effect :=
  { effect with counted := extra.add effect.counted }

theorem Done.of_counted
    {effect : Effect}
    {before counting : Replay}
    {reached : Reached Fault Replay Unit}
    {extra : Statistics}
    (done : effect.Done counting reached)
    (counted : counting = { before with counted := before.counted.add extra }) :
    (effect.counting extra).Done before reached := by
  subst counted
  refine { done with counted := ?_ }
  rw [done.counted, Statistics.add_assoc]
  rfl

end Effect

/-- An event has the same effect on two replays, and writes within a footprint. -/
def SameEffect
    (footprint : Footprint)
    (id : UInt32)
    (event : Replay -> Reached Fault Replay Unit)
    (first second : Replay) : Prop :=
  ∃ effect : Effect, effect.id = id ∧ effect.Done first (event first) ∧
    effect.Done second (event second) ∧
    ∀ address, effect.journal.Writes address -> footprint.Writes address

namespace Replay

/-- Everything but one thread and the writes of a footprint is as before. -/
structure Keeps (footprint : Footprint) (id : UInt32) (before after : Replay) : Prop where
  thread : ∀ other, other ≠ id -> before.threads.find? other = after.threads.find? other
  extent : before.memory.extent = after.memory.extent
  label : ∀ address, ¬footprint.Writes address ->
    before.memory.labels.label address = after.memory.labels.label address

variable {replay first second : Replay} {id : UInt32}
  {action : Focus -> Reached Fault Focus Value} {counts : Statistics -> Value -> Statistics}

/-- What comes into view of a thread depends on the entry of the thread. -/
theorem thread_view_congr (sameThread : first.threads.find? id = second.threads.find? id) :
    (first.view id).thread = (second.view id).thread := by
  rw [thread_view, thread_view, sameThread]

theorem executes_congr
    {event : Event}
    (sameThread : ∀ id, event.thread? = some id ->
      first.threads.find? id = second.threads.find? id) :
    first.executes event = second.executes event := by
  cases event with
  | step id instr context =>
      rw [executes, executes, thread_view_congr (sameThread id rfl)]
  | _ => rfl

/-- What the deed of an action does to the replay around the view. -/
def effectOf
    (live : Bool)
    (counts : Statistics -> Value -> Statistics)
    (deed : Deed Value) : Effect where
  id := deed.thread.id
  thread := some deed.thread
  named := by
    rintro left member
    cases member
    rfl
  counted := (if live then .zero else .oneThread : Statistics).add (counts .zero deed.value)
  findings := deed.findings
  journal := deed.journal

theorem within_done
    {deed : Deed Value}
    (additive : ∀ statistics value,
      counts statistics value = statistics.add (counts .zero value))
    (named : deed.thread.id = id)
    (done : deed.Done (replay.view id) (action (replay.view id))) :
    (effectOf (replay.threads.find? id).isSome counts deed).Done replay
      (replay.within id action counts) where
  result := by
    rw [result_within, done.result]
    rfl
  threads := by
    have kept : (action (replay.view id)).state.thread.id = id := by rw [done.thread, named]
    rw [threads_within kept, done.thread]
    rfl
  counted := by
    rw [within_eq, Reached.eq_done done.result]
    show counts (replay.begin id).counted deed.value = _
    rw [additive, counted_begin, Statistics.add_assoc]
    rfl
  findings := by
    rw [findings_within, done.findings, findings_view]
    rfl
  memory := by
    rw [memory_within]
    have records := done.memory
    rwa [memory_view] at records

section Counting

variable {counting : Replay -> Replay} {extra : Statistics}
  (counted : ∀ replay, counting replay = { replay with counted := replay.counted.add extra })

include counted

theorem view_counting (replay : Replay) (id : UInt32) :
    (counting replay).view id = replay.view id := by
  rw [counted, view_eq, view_eq]

/-- An action that is within an event that ran has run. -/
theorem action_ran (ran : ((counting replay).within id action counts).result = .ok ()) :
    ∃ value, (action (replay.view id)).result = .ok value := by
  rw [result_within, view_counting counted] at ran
  cases acted : (action (replay.view id)).result with
  | ok value => exact ⟨value, rfl⟩
  | error fault =>
      rw [acted] at ran
      cases ran

/-- An action with the same deed has the same effect, whatever is counted before it. -/
theorem within_sameEffect
    {footprint : Footprint}
    (additive : ∀ statistics value,
      counts statistics value = statistics.add (counts .zero value))
    (named : (action (first.view id)).state.thread.id = id)
    (sameThread : first.threads.find? id = second.threads.find? id)
    (sameDeed : SameDeed footprint action (first.view id) (second.view id)) :
    SameEffect footprint id (fun replay => (counting replay).within id action counts)
      first second := by
  obtain ⟨deed, firstDone, secondDone, writes⟩ := sameDeed
  rw [firstDone.thread] at named
  have done {replay : Replay}
      (same : first.threads.find? id = replay.threads.find? id)
      (acted : deed.Done (replay.view id) (action (replay.view id))) :
      ((effectOf (first.threads.find? id).isSome counts deed).counting extra).Done
        replay ((counting replay).within id action counts) := by
    rw [← view_counting counted] at acted
    have within := within_done additive named acted
    rw [same]
    rw [counted] at within ⊢
    exact within.of_counted rfl
  exact ⟨_, named, done rfl firstDone, done sameThread secondDone, writes⟩

end Counting

/-- What the end of a thread does, whether or not the thread is live. -/
def endingOf (id : UInt32) (thread? : Option Thread) : Effect where
  id := id
  thread := none
  named := nofun
  counted :=
    match thread? with
    | some thread => .takeIn .zero thread
    | none => .zero
  findings := .none
  journal := []

theorem endThread_done (replay : Replay) (id : UInt32) :
    (endingOf id (replay.threads.find? id)).Done replay (.done (replay.endThread id) ()) := by
  rw [endThread]
  cases found : replay.threads.find? id with
  | none =>
      exact ⟨rfl, (ThreadTable.erase_of_absent found).symm, (Statistics.add_zero _).symm,
        (Findings.append_none _).symm, .refl _⟩
  | some thread =>
      exact ⟨rfl, rfl, Statistics.takeIn_eq _ thread, (Findings.append_none _).symm, .refl _⟩

theorem endThread_sameEffect (sameThread : first.threads.find? id = second.threads.find? id) :
    SameEffect .empty id (fun replay => .done (replay.countEvent.endThread id) ())
      first second := by
  have done {replay : Replay} (same : first.threads.find? id = replay.threads.find? id) :
      ((endingOf id (first.threads.find? id)).counting .oneEvent).Done
        replay (.done (replay.countEvent.endThread id) ()) := by
    rw [same]
    exact (endThread_done replay.countEvent id).of_counted replay.countEvent_eq
  exact ⟨_, rfl, done rfl, done sameThread,
    fun _ written => absurd written Journal.not_writes_nil⟩

end Replay

namespace Analysis

variable {analysis : Analysis} {first second : Replay} {event : Event}

/-- Whether an event is stopped is decided by the extent of the memory and by whether
its instruction executes. -/
theorem result_apply_congr
    (extent : first.memory.extent = second.memory.extent)
    (executes : first.executes event = second.executes event) :
    (analysis.apply first event).result = (analysis.apply second event).result := by
  rw [(analysis.apply_meets first event).result_eq, (analysis.apply_meets second event).result_eq,
    extent, executes]

/-- An event has the same effect on two replays with the same entry for its thread, and
the same labels wherever the event reads. -/
theorem apply_sameEffect
    {id : UInt32}
    (named : event.thread? = some id)
    (sameThread : first.threads.find? id = second.threads.find? id)
    (agree : (event.footprint analysis.config (first.executes event)).Agree
      first.memory.labels second.memory.labels)
    (firstRan : (analysis.apply first event).result = .ok ())
    (secondRan : (analysis.apply second event).result = .ok ()) :
    SameEffect (event.footprint analysis.config (first.executes event)) id
      (fun replay => analysis.apply replay event) first second := by
  have sameView := Replay.thread_view_congr sameThread
  rw [← Replay.memory_view first id, ← Replay.memory_view second id] at agree
  cases event with
  | step _ instr context =>
      cases named
      obtain ⟨_, firstStepped⟩ := Replay.action_ran Replay.countEvent_eq firstRan
      obtain ⟨_, secondStepped⟩ := Replay.action_ran Replay.countEvent_eq secondRan
      refine Replay.within_sameEffect Replay.countEvent_eq Statistics.countOutcome_eq ?_ sameThread
        (step_sameDeed sameView agree firstStepped secondStepped)
      rw [id_step, Replay.id_view]
  | callEntry _ number arguments =>
      cases named
      have counted (replay : Replay) : replay.countEvent.countCall =
          { replay with counted := replay.counted.add (.add .oneEvent .oneCall) } := by
        rw [Replay.countCall_eq, Replay.countEvent_eq, ← Statistics.add_assoc]
      obtain ⟨_, firstEntered⟩ := Replay.action_ran counted firstRan
      obtain ⟨_, secondEntered⟩ := Replay.action_ran counted secondRan
      refine Replay.within_sameEffect counted Statistics.countDisposition_eq ?_ sameThread
        (enterCall_sameDeed sameView agree firstEntered secondEntered)
      rw [id_enterCall, Replay.id_view]
  | callReturn _ call =>
      cases named
      obtain ⟨_, firstLeft⟩ := Replay.action_ran Replay.countEvent_eq firstRan
      obtain ⟨_, secondLeft⟩ := Replay.action_ran Replay.countEvent_eq secondRan
      refine Replay.within_sameEffect Replay.countEvent_eq
        (fun statistics _ => (Statistics.add_zero statistics).symm) ?_ sameThread
        (leaveCall_sameDeed sameView firstLeft secondLeft)
      rw [id_leaveCall, Replay.id_view]
  | taint _ _ _ => cases named
  | untaint _ _ => cases named
  | threadExit _ =>
      cases named
      exact Replay.endThread_sameEffect sameThread

/-- An event that ran changes its own thread and the labels that it writes. -/
theorem apply_keeps
    {replay : Replay}
    {id : UInt32}
    (named : event.thread? = some id)
    (ran : (analysis.apply replay event).result = .ok ()) :
    Replay.Keeps (event.footprint analysis.config (replay.executes event)) id
      replay (analysis.apply replay event).state := by
  obtain ⟨effect, rfl, done, -, writes⟩ :=
    apply_sameEffect named rfl (fun _ _ => rfl) ran ran
  refine ⟨?thread, ?extent, ?label⟩
  case thread =>
    intro other different
    rw [done.threads, Effect.find?_leave, if_neg different]
  case extent => rw [Memory.extent, Memory.extent, done.memory.base, done.memory.size]
  case label =>
    intro address unwritten
    exact (done.memory.label_eq fun written => unwritten (writes address written)).symm

end Analysis
end ShadowTaint
