import Mathlib.Data.List.Induction
import ShadowTaint.Proofs.Trace.View

/-!
# The flags by which predicates are decided

A thread looks at the recorded flags only behind an opcode that may have changed them,
one step late, and keeps what it saw. In terms of the trace: the flags by which a step
is decided are those recorded at the latest step, this one included, that comes right
after a flag-affecting one of the same incarnation of the thread. The invariant ties the
flags and the opcode that a thread remembers to the steps of its incarnation; events of
other threads, calls and taint requests leave both sides alone.
-/

namespace ShadowTaint

/-- The arrival of a thread at an instruction, with the values recorded there. -/
structure Arrival where
  instr : Instruction
  context : Context
  deriving DecidableEq

namespace Event

/-- The arrival that an event records for a thread. -/
def arrival? (id : UInt32) : Event -> Option Arrival
  | step thread instr context => if thread = id then some ⟨instr, context⟩ else none
  | _ => none

end Event

/-- The steps of the current incarnation of a thread: those since its last exit. -/
def arrivals (id : UInt32) (past : List Event) : List Arrival :=
  (past.reverse.takeWhile fun event => event != .threadExit id).reverse.filterMap
    (Event.arrival? id)

/-- Consecutive steps. -/
def successions (steps : List Arrival) : List (Arrival × Arrival) := steps.zip steps.tail

/-- The flags recorded right behind flag-affecting opcodes, in order. -/
def refreshedFlags (steps : List Arrival) : List Flags :=
  ((successions steps).filter fun pair => pair.1.instr.opcode.affectsFlags).map fun pair =>
    pair.2.context.flags

/-- The latest flags recorded right behind a flag-affecting opcode; no flag is set
before there are any. -/
def latestFlags (steps : List Arrival) : Flags :=
  (refreshedFlags steps).getLast?.getD Flags.clear

/-- The opcode of the last step. -/
def lastOpcode? (steps : List Arrival) : Option Opcode :=
  steps.getLast?.map fun arrival => arrival.instr.opcode

/-- Between consecutive steps, recorded flags change only across flag-affecting opcodes. -/
def FlagsSettled (steps : List Arrival) : Prop :=
  ∀ pair ∈ successions steps, pair.1.instr.opcode.affectsFlags = false ->
    pair.2.context.flags = pair.1.context.flags

/-! ## Histories that grow by one step -/

theorem arrivals_concat_exit (id : UInt32) (past : List Event) :
    arrivals id (past ++ [.threadExit id]) = [] := by
  simp [arrivals]

theorem arrivals_concat
    {id : UInt32}
    {event : Event}
    (stays : event ≠ .threadExit id)
    (past : List Event) :
    arrivals id (past ++ [event]) = arrivals id past ++ (event.arrival? id).toList := by
  unfold arrivals
  have kept : (event != .threadExit id) = true := bne_iff_ne.2 stays
  rw [List.reverse_concat, List.takeWhile_cons, if_pos kept, List.reverse_cons,
    List.filterMap_append]
  cases here : event.arrival? id <;> simp [here]

/-- Events that are neither steps nor the exit of a thread add nothing to its history. -/
theorem arrivals_concat_of_none
    {id : UInt32}
    {event : Event}
    (stays : event ≠ .threadExit id)
    (still : event.arrival? id = none)
    (past : List Event) :
    arrivals id (past ++ [event]) = arrivals id past := by
  rw [arrivals_concat stays, still, Option.toList_none, List.append_nil]

theorem successions_concat (steps : List Arrival) (last : Arrival) :
    successions (steps ++ [last]) =
      successions steps ++ (steps.getLast?.map fun previous => (previous, last)).toList := by
  unfold successions
  induction steps with
  | nil => rfl
  | cons first rest inductionHypothesis =>
      cases rest with
      | nil => rfl
      | cons second rest =>
          rw [List.getLast?_cons_cons]
          exact congrArg ((first, second) :: ·) inductionHypothesis

/-- A thread that remembers the latest flags and its last opcode observes the latest
flags at its next step. -/
theorem latestFlags_concat (steps : List Arrival) (last : Arrival) :
    latestFlags (steps ++ [last]) =
      observeFlags (lastOpcode? steps) (latestFlags steps) last.context.flags := by
  unfold latestFlags refreshedFlags lastOpcode?
  rw [successions_concat, observeFlags, flagsOutdated]
  cases steps.getLast? with
  | none => simp
  | some previous => cases affects : previous.instr.opcode.affectsFlags <;> simp [affects]

theorem lastOpcode?_concat (steps : List Arrival) (last : Arrival) :
    lastOpcode? (steps ++ [last]) = some last.instr.opcode := by
  simp [lastOpcode?]

/-- If recorded flags are settled, those behind the first flag-affecting opcode are
the latest. -/
theorem latestFlags_of_settled
    {steps : List Arrival}
    {last : Arrival}
    (settled : FlagsSettled (steps ++ [last]))
    (affected : ∃ arrival ∈ steps, arrival.instr.opcode.affectsFlags = true) :
    latestFlags (steps ++ [last]) = last.context.flags := by
  induction steps using List.reverseRecOn generalizing last with
  | nil => simp at affected
  | append_singleton earlier previous inductionHypothesis =>
      rw [latestFlags_concat, lastOpcode?_concat, observeFlags]
      cases affects : previous.instr.opcode.affectsFlags with
      | true => simp [flagsOutdated, affects]
      | false =>
          have same : last.context.flags = previous.context.flags := by
            refine settled (previous, last) ?_ affects
            rw [successions_concat]
            simp
          have before : FlagsSettled (earlier ++ [previous]) := by
            intro pair member
            refine settled pair ?_
            rw [successions_concat]
            exact List.mem_append_left _ member
          obtain ⟨arrival, member, affecting⟩ := affected
          obtain inEarlier | atPrevious := List.mem_append.1 member
          · rw [inductionHypothesis before ⟨arrival, inEarlier, affecting⟩, same]
            simp [flagsOutdated, affects]
          · rw [List.mem_singleton.1 atPrevious, affects] at affecting
            cases affecting

/-! ## What a thread remembers -/

namespace Replay

/-- A thread remembers the latest flags and the last opcode of its incarnation. -/
structure Remembers (replay : Replay) (id : UInt32) (steps : List Arrival) : Prop where
  observed : (replay.view id).thread.observed = latestFlags steps
  previous : (replay.view id).thread.previous = lastOpcode? steps

variable {replay : Replay} {id : UInt32} {steps : List Arrival}

/-- What is remembered depends on the thread only. -/
theorem Remembers.congr
    {other : Replay}
    (remembers : replay.Remembers id steps)
    (same : other.threads.find? id = replay.threads.find? id) :
    other.Remembers id steps := by
  have sameThread : (other.view id).thread = (replay.view id).thread := by
    rw [thread_view, thread_view, same]
  exact ⟨by rw [sameThread, remembers.observed], by rw [sameThread, remembers.previous]⟩

/-- An action of another thread changes nothing that is remembered. -/
theorem Remembers.within_other
    {acting : UInt32}
    {action : Focus -> Reached Fault Focus Value}
    (remembers : replay.Remembers id steps)
    (counts : Statistics -> Value -> Statistics)
    (kept : (action (replay.view acting)).state.thread.id = acting)
    (other : acting ≠ id) :
    (replay.within acting action counts).state.Remembers id steps := by
  refine remembers.congr ?_
  rw [threads_within kept, ThreadTable.find?_insert, kept, if_neg (Ne.symm other)]

/-- After an action of the thread, what is remembered is what the action left. -/
theorem thread_view_within
    {action : Focus -> Reached Fault Focus Value}
    (counts : Statistics -> Value -> Statistics)
    (kept : (action (replay.view id)).state.thread.id = id) :
    ((replay.within id action counts).state.view id).thread =
      (action (replay.view id)).state.thread := by
  rw [thread_view, threads_within kept, ThreadTable.find?_insert, kept, if_pos rfl]
  rfl

/-- An action that keeps flags and opcode changes nothing that is remembered. -/
theorem Remembers.within_same
    {acting : UInt32}
    {action : Focus -> Reached Fault Focus Value}
    (remembers : replay.Remembers id steps)
    (counts : Statistics -> Value -> Statistics)
    (kept : (action (replay.view acting)).state.thread.id = acting)
    (observed : (action (replay.view acting)).state.thread.observed =
      (replay.view acting).thread.observed)
    (previous : (action (replay.view acting)).state.thread.previous =
      (replay.view acting).thread.previous) :
    (replay.within acting action counts).state.Remembers id steps := by
  by_cases here : acting = id
  · subst here
    constructor
    · rw [thread_view_within counts kept, observed, remembers.observed]
    · rw [thread_view_within counts kept, previous, remembers.previous]
  · exact remembers.within_other counts kept here

end Replay

namespace Analysis

/-- At every event, a thread that remembers its incarnation still does. -/
theorem apply_remembers
    (analysis : Analysis)
    {replay : Replay}
    {id : UInt32}
    {past : List Event}
    (remembers : replay.Remembers id (arrivals id past))
    (event : Event) :
    (analysis.apply replay event).state.Remembers id (arrivals id (past ++ [event])) := by
  have counted : replay.countEvent.Remembers id (arrivals id past) := remembers.congr rfl
  cases event with
  | step acting instr context =>
      rw [apply]
      obtain ⟨registers, unhandled, thread⟩ :=
        analysis.thread_step instr context (replay.countEvent.view acting)
      have kept : (analysis.step instr context (replay.countEvent.view acting)).state.thread.id =
          acting := by simp
      by_cases here : acting = id
      · subst here
        rw [arrivals_concat (by simp), Event.arrival?, if_pos rfl, Option.toList_some]
        constructor
        · rw [Replay.thread_view_within _ kept, thread, latestFlags_concat,
            ← counted.observed, ← counted.previous]
          rfl
        · rw [Replay.thread_view_within _ kept, thread, lastOpcode?_concat]
          rfl
      · have still : (Event.step acting instr context).arrival? id = none := if_neg here
        rw [arrivals_concat_of_none (by simp) still]
        exact counted.within_other _ kept here
  | callEntry acting number arguments =>
      rw [arrivals_concat_of_none (by simp) rfl]
      have called : replay.countEvent.countCall.Remembers id (arrivals id past) :=
        counted.congr rfl
      obtain ⟨registers, pending, thread⟩ :=
        analysis.thread_enterCall number arguments (replay.countEvent.countCall.view acting)
      refine called.within_same _ (by simp) ?_ ?_
      · rw [thread]
      · rw [thread]
  | callReturn acting call =>
      rw [arrivals_concat_of_none (by simp) rfl]
      obtain ⟨registers, thread⟩ := analysis.thread_leaveCall call (replay.countEvent.view acting)
      refine counted.within_same _ (by simp) ?_ ?_
      · rw [thread]
      · rw [thread]
  | taint address length label? | untaint address length =>
      rw [arrivals_concat_of_none (by simp) rfl]
      refine counted.congr ?_
      rw [apply, Replay.changeMemory]
      split <;> rfl
  | threadExit exiting =>
      rw [apply, Reached.done]
      by_cases here : exiting = id
      · subst here
        rw [arrivals_concat_exit]
        have ended : (replay.countEvent.endThread exiting).threads.find? exiting = none := by
          rw [Replay.endThread]
          split
          · rw [ThreadTable.find?_erase, if_pos rfl]
          · assumption
        constructor <;> rw [Replay.thread_view, ended] <;> rfl
      · rw [arrivals_concat_of_none (by simpa using here) rfl]
        refine counted.congr ?_
        rw [Replay.endThread]
        split
        · rw [ThreadTable.find?_erase, if_neg (Ne.symm here)]
        · rfl

end Analysis
end ShadowTaint
