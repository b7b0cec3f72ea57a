import Mathlib.Data.List.Induction
import ShadowTaint.Proofs.Flags.History
import ShadowTaint.Proofs.Shadow.Journal

/-!
# Calls that are pending

A call that carries a request is served at once and never returns. Any other call is
pending in its thread from its entry until a call of the thread returns, another one is
entered, or the thread ends. What a thread remembers as its pending call is therefore a
function of the calls of its incarnation: every event of the thread that bears on it says
what is pending behind the event, and all other events leave it as it was.
-/

namespace ShadowTaint

/-! ## What has held since -/

/-- Something has happened in a history, and all that came since was quiet. -/
def Since {Item : Type} (quiet happened : Item -> Prop) (past : List Item) : Prop :=
  ∃ earlier item later, past = earlier ++ item :: later ∧
    happened item ∧ ∀ other ∈ later, quiet other

section Since

variable {Item : Type} {quiet happened : Item -> Prop}

theorem not_since_nil : ¬Since quiet happened [] := by
  rintro ⟨earlier, item, later, split, -⟩
  cases earlier <;> cases split

theorem since_concat {past : List Item} {last : Item} :
    Since quiet happened (past ++ [last]) ↔
      (Since quiet happened past ∧ quiet last) ∨ happened last := by
  rw [Since, exists_occurrence_concat]
  refine or_congr ?_ (and_iff_left fun _ member => absurd member List.not_mem_nil)
  constructor
  · rintro ⟨earlier, item, later, split, occurred, still⟩
    exact ⟨⟨earlier, item, later, split, occurred, fun other member =>
      still other (List.mem_append_left _ member)⟩, still last (by simp)⟩
  · rintro ⟨⟨earlier, item, later, split, occurred, still⟩, stillLast⟩
    refine ⟨earlier, item, later, split, occurred, fun other member => ?_⟩
    obtain before | here := List.mem_append.1 member
    · exact still other before
    · cases List.mem_singleton.1 here
      exact stillLast

end Since

/-! ## Calls that carry requests -/

theorem ControlKind.ofDescriptor?_eq_some_iff {kind : ControlKind} {descriptor : UInt32} :
    ofDescriptor? descriptor = some kind ↔ kind.descriptor = descriptor := by
  constructor
  · intro found
    simpa using List.find?_some found
  · rintro rfl
    exact kind.ofDescriptor?_descriptor

namespace ControlRequest

/-- A call carries a request: it is `write`, on the descriptor of a kind of request, with
the range for its buffer. -/
def CarriedBy (request : ControlRequest) (number : UInt32) (arguments : List UInt32) : Prop :=
  number = 4 ∧ ∃ rest,
    arguments = request.kind.descriptor :: request.address :: request.length :: rest

variable {request : ControlRequest} {number : UInt32} {arguments : List UInt32}

theorem ofCall?_eq_some_iff :
    ofCall? number arguments = some request ↔ request.CarriedBy number arguments := by
  constructor
  · intro carried
    rw [ofCall?.eq_def] at carried
    split at carried
    · rename_i descriptor address length rest
      by_cases write : number = writeCall
      · rw [if_pos write] at carried
        obtain ⟨kind, found, rfl⟩ := Option.map_eq_some_iff.1 carried
        cases ControlKind.ofDescriptor?_eq_some_iff.1 found
        exact ⟨write, rest, rfl⟩
      · rw [if_neg write] at carried
        cases carried
    · cases carried
  · rintro ⟨rfl, rest, rfl⟩
    rw [ofCall?, writeCall, if_pos rfl, ControlKind.ofDescriptor?_descriptor]
    rfl

theorem ofCall?_eq_none_iff :
    ofCall? number arguments = none ↔ ¬∃ request : ControlRequest,
      request.CarriedBy number arguments := by
  simp only [← ofCall?_eq_some_iff, Option.eq_none_iff_forall_ne_some, not_exists, ne_eq]

end ControlRequest

/-! ## The pending call of a history -/

namespace Event

/-- What is pending in a thread behind an event, from what was pending before it. -/
def pending (id : UInt32) (before : Option UInt32) : Event -> Option UInt32
  | callEntry other number arguments =>
      if other = id ∧ ControlRequest.ofCall? number arguments = none then some number else before
  | callReturn other _ | threadExit other => if other = id then none else before
  | step _ _ _ | taint _ _ _ | untaint _ _ => before

/-- An event decides which call of a thread is pending behind it: it enters a call that
carries no request, returns from a call, or ends the thread. -/
def DecidesPending (id : UInt32) : Event -> Prop
  | callEntry other number arguments =>
      other = id ∧ ¬∃ request : ControlRequest, request.CarriedBy number arguments
  | callReturn other _ | threadExit other => other = id
  | step _ _ _ | taint _ _ _ | untaint _ _ => False

/-- An event enters a call of a thread that carries no request. -/
def EntersCall (id number : UInt32) (event : Event) : Prop :=
  ∃ arguments, event = callEntry id number arguments ∧
    ¬∃ request : ControlRequest, request.CarriedBy number arguments

/-- Behind an event that call is pending which it enters, or which was pending before and
about which it decides nothing. -/
theorem pending_eq_some_iff {event : Event} {id number : UInt32} {before : Option UInt32} :
    event.pending id before = some number ↔
      (before = some number ∧ ¬event.DecidesPending id) ∨ event.EntersCall id number := by
  cases event with
  | callEntry other entered arguments =>
      have enters : (callEntry other entered arguments).EntersCall id number ↔
          (callEntry other entered arguments).DecidesPending id ∧ entered = number := by
        constructor
        · rintro ⟨_, same, carriesNone⟩
          cases same
          exact ⟨⟨rfl, carriesNone⟩, rfl⟩
        · rintro ⟨⟨rfl, carriesNone⟩, rfl⟩
          exact ⟨arguments, rfl, carriesNone⟩
      rw [enters, pending]
      by_cases decides : (callEntry other entered arguments).DecidesPending id
      · rw [if_pos ⟨decides.1, ControlRequest.ofCall?_eq_none_iff.2 decides.2⟩]
        simp [decides]
      · rw [if_neg fun both => decides ⟨both.1, ControlRequest.ofCall?_eq_none_iff.1 both.2⟩]
        simp [decides]
  | callReturn other _ | threadExit other =>
      by_cases here : other = id <;> simp [pending, DecidesPending, EntersCall, here]
  | step _ _ _ | taint _ _ _ | untaint _ _ => simp [pending, DecidesPending, EntersCall]

end Event

/-- A call of a thread has been entered, carries no request, and nothing since has decided
which call is pending. -/
def IsPending (past : List Event) (id number : UInt32) : Prop :=
  Since (fun event : Event => ¬event.DecidesPending id) (Event.EntersCall id number) past

/-- What events leave pending one after the other is what is pending in their history. -/
theorem foldl_pending_eq_some_iff {past : List Event} {id number : UInt32} :
    past.foldl (Event.pending id) none = some number ↔ IsPending past id number := by
  induction past using List.reverseRecOn with
  | nil => exact iff_of_false nofun not_since_nil
  | append_singleton earlier event inductionHypothesis =>
      rw [List.foldl_append, List.foldl_cons, List.foldl_nil, Event.pending_eq_some_iff,
        inductionHypothesis, IsPending, IsPending, since_concat]

/-! ## The pending call of a thread -/

namespace Replay

/-- An action on one thread brings no other thread into another state. -/
theorem thread_view_within_other
    {replay : Replay}
    {id acting : UInt32}
    {action : Focus -> Reached Fault Focus Value}
    (counts : Statistics -> Value -> Statistics)
    (kept : (action (replay.view acting)).state.thread.id = acting)
    (other : acting ≠ id) :
    ((replay.within acting action counts).state.view id).thread = (replay.view id).thread := by
  rw [thread_view, thread_view, threads_within kept, ThreadTable.find?_insert, kept,
    if_neg (Ne.symm other)]

end Replay

namespace Analysis

variable {analysis : Analysis}

/-- Entering a call makes it pending, unless it carries a request. -/
theorem pendingCall_enterCall
    {number : UInt32}
    {arguments : List UInt32}
    (focus : Focus) :
    (analysis.enterCall number arguments focus).state.thread.pendingCall =
      if ControlRequest.ofCall? number arguments = none then some number
      else focus.thread.pendingCall := by
  rw [enterCall]
  cases ControlRequest.ofCall? number arguments with
  | none => rfl
  | some request =>
      dsimp only
      split <;> rfl

/-- Behind every event a thread remembers what the event leaves pending. -/
theorem pendingCall_apply (replay : Replay) (event : Event) (id : UInt32) :
    ((analysis.apply replay event).state.view id).thread.pendingCall =
      event.pending id (replay.view id).thread.pendingCall := by
  rw [← replay.view_countEvent]
  cases event with
  | step acting instr context =>
      have kept : (analysis.step instr context (replay.countEvent.view acting)).state.thread.id =
          acting := by simp
      rw [apply, Event.pending]
      by_cases here : acting = id
      · subst here
        obtain ⟨registers, unhandled, thread⟩ :=
          analysis.thread_step instr context (replay.countEvent.view acting)
        rw [Replay.thread_view_within _ kept, thread]
        rfl
      · rw [Replay.thread_view_within_other _ kept here]
  | callEntry acting number arguments =>
      rw [← replay.countEvent.view_countCall]
      have kept : (analysis.enterCall number arguments
          (replay.countEvent.countCall.view acting)).state.thread.id = acting := by simp
      rw [apply, Event.pending]
      by_cases here : acting = id
      · subst here
        rw [Replay.thread_view_within _ kept, pendingCall_enterCall]
        simp only [true_and]
      · rw [Replay.thread_view_within_other _ kept here, if_neg fun both => here both.1]
  | callReturn acting call =>
      have kept : (analysis.leaveCall call (replay.countEvent.view acting)).state.thread.id =
          acting := by simp
      rw [apply, Event.pending]
      by_cases here : acting = id
      · subst here
        obtain ⟨registers, thread⟩ := analysis.thread_leaveCall call (replay.countEvent.view acting)
        rw [Replay.thread_view_within _ kept, thread, if_pos rfl]
      · rw [Replay.thread_view_within_other _ kept here, if_neg here]
  | taint address length label? | untaint address length =>
      rw [apply, Event.pending, Replay.changeMemory]
      split <;> simp only [Replay.thread_view, Reached.done, Reached.stopped]
  | threadExit exiting =>
      rw [apply, Event.pending, Reached.done, Replay.thread_view, Replay.thread_view,
        Replay.endThread]
      dsimp only
      split
      · rw [ThreadTable.find?_erase]
        by_cases here : exiting = id
        · rw [if_pos here.symm, if_pos here]
          rfl
        · rw [if_neg (Ne.symm here), if_neg here]
      · rename_i absent
        by_cases here : exiting = id
        · rw [if_pos here, ← here, absent]
          rfl
        · rw [if_neg here]

/-- In a replay from the start, a thread remembers the call that is pending in the trace. -/
theorem pendingCall_applyAll
    {memory : Memory}
    {past : List Event}
    {replay : Replay}
    (ran : analysis.applyAll (Replay.start memory) past = .done replay ())
    (id : UInt32) :
    (replay.view id).thread.pendingCall = past.foldl (Event.pending id) none := by
  induction past using List.reverseRecOn generalizing replay with
  | nil =>
      cases ran
      rw [Replay.thread_view]
      rfl
  | append_singleton earlier event inductionHypothesis =>
      rw [applyAll_concat] at ran
      obtain ⟨middle, _, earlierRan, eventRan⟩ := Reached.andThen_eq_done_iff.1 ran
      have applied := analysis.pendingCall_apply middle event id
      rw [eventRan, inductionHypothesis earlierRan] at applied
      rw [List.foldl_append]
      exact applied

end Analysis
end ShadowTaint
