import ShadowTaint.Proofs.Access.Violation
import ShadowTaint.Proofs.Order.Effects

/-!
# Returns of system calls

A call that returns gives one label to every byte of its output buffers. It cleans them
first and labels them afterwards if it is a source, but what is left in the end depends on
which bytes lie in some output buffer, and not on how the buffers share them out. The same
holds for the fault of a buffer that is not mapped. Only the number of bytes that are
counted as input adds up the buffers one by one.
-/

namespace ShadowTaint

/-- A range is mapped if each of its addresses is. -/
theorem Extent.maps_iff {extent : Extent} {span : Span} :
    extent.Maps span ↔
      ∀ address, span.Contains address ->
        extent.base ≤ address ∧ address < extent.base + extent.size := by
  constructor
  · rintro mapped address ⟨lower, upper⟩
    obtain empty | ⟨first, last⟩ := mapped <;> omega
  · intro inside
    by_cases empty : span.length = 0
    · exact .inl empty
    · have first := inside span.first.toNat ⟨Nat.le_refl _, by omega⟩
      have last := inside (span.first.toNat + span.length - 1) ⟨by omega, by omega⟩
      exact .inr ⟨first.1, by omega⟩

/-! ## Journals of one label -/

namespace Journal

/-- In a journal of one label, the label of a written address does not depend on where the
address stands. -/
theorem lookup_of_uniform
    {journal : Journal}
    {label : UInt8}
    {address : Nat}
    (uniform : ∀ entry ∈ journal, entry.2 = label)
    (written : journal.Writes address) :
    journal.lookup address = some label := by
  induction journal with
  | nil => exact absurd written not_writes_nil
  | cons entry rest inductionHypothesis =>
      rw [List.lookup_cons]
      cases here : address == entry.1 with
      | true => exact congrArg some (uniform entry List.mem_cons_self)
      | false =>
          apply inductionHypothesis fun entry inRest =>
            uniform entry (List.mem_cons_of_mem _ inRest)
          obtain ⟨stored, member⟩ := written
          obtain rfl | inRest := List.mem_cons.1 member
          · simp at here
          · exact ⟨stored, inRest⟩

end Journal

namespace Span

variable {label : UInt8} {spans : List Span}

theorem mem_journalAll_iff {address : Nat} {stored : UInt8} :
    (address, stored) ∈ journalAll label spans ↔
      stored = label ∧ ∃ span ∈ spans, span.Contains address := by
  have uniform : ∀ entry ∈ journalAll label spans, entry.2 = label := by
    intro entry member
    obtain ⟨stored, inSpans, inJournal⟩ := List.mem_flatten.1 member
    obtain ⟨span, -, rfl⟩ := List.mem_map.1 (List.mem_reverse.1 inSpans)
    obtain ⟨position, -, rfl⟩ := List.mem_map.1 inJournal
    rfl
  constructor
  · intro member
    exact ⟨uniform _ member, writes_journalAll_iff.1 ⟨stored, member⟩⟩
  · rintro ⟨rfl, contained⟩
    obtain ⟨written, member⟩ := writes_journalAll_iff.2 contained
    cases uniform _ member
    exact member

theorem lookup_journalAll
    {address : Nat}
    (contained : ∃ span ∈ spans, span.Contains address) :
    (journalAll label spans).lookup address = some label := by
  apply Journal.lookup_of_uniform
  · rintro ⟨written, stored⟩ member
    exact (mem_journalAll_iff.1 member).1
  · exact writes_journalAll_iff.2 contained

/-- Filling ranges taints the pages in which they lie, unless it cleans them. -/
theorem taints_journalAll_iff {base number : Nat} :
    (journalAll label spans).Taints base number ↔
      label ≠ 0 ∧ ∃ address, (∃ span ∈ spans, span.Contains address) ∧
        (address - base) / pageSize = number := by
  constructor
  · rintro ⟨⟨address, stored⟩, member, tainted, page⟩
    obtain ⟨rfl, contained⟩ := mem_journalAll_iff.1 member
    exact ⟨tainted, address, contained, page⟩
  · rintro ⟨tainted, address, contained, page⟩
    exact ⟨(address, label), mem_journalAll_iff.2 ⟨rfl, contained⟩, tainted, page⟩

end Span

/-! ## Bytes that a call fills -/

namespace CallReturn

/-- An address lies in a buffer into which the kernel has written. -/
def Fills (call : CallReturn) (address : Nat) : Prop :=
  call.succeeded = true ∧
    ∃ argument ∈ call.arguments.getD [],
      argument.direction.isOutput = true ∧ argument.span.Contains address

variable {call other : CallReturn}

/-- The order of the buffers and their repetition say nothing about the filled bytes. -/
theorem fills_congr
    (succeeded : other.succeeded = call.succeeded)
    (arguments : ∀ argument,
      argument ∈ other.arguments.getD [] ↔ argument ∈ call.arguments.getD [])
    (address : Nat) :
    other.Fills address ↔ call.Fills address := by
  simp only [Fills, succeeded, arguments]

theorem fills_iff {address : Nat} :
    call.Fills address ↔
      call.succeeded = true ∧
        ∃ span ∈ call.outputs.map MemoryArgument.span, span.Contains address := by
  refine and_congr_right fun _ => ⟨?_, ?_⟩
  · rintro ⟨argument, member, isOutput, contained⟩
    exact ⟨_, List.mem_map_of_mem (mem_outputs.2 ⟨member, isOutput⟩), contained⟩
  · rintro ⟨_, member, contained⟩
    obtain ⟨argument, inOutputs, rfl⟩ := List.mem_map.1 member
    obtain ⟨inArguments, isOutput⟩ := mem_outputs.1 inOutputs
    exact ⟨argument, inArguments, isOutput, contained⟩

/-- A return keeps its contract if all bytes that it fills are mapped. -/
theorem not_violates_iff
    {extent : Extent}
    {config : AnalysisConfig}
    {executes : Bool}
    {id : UInt32} :
    ¬(Event.callReturn id call).Violates extent config executes ↔
      ∀ address, call.Fills address ->
        extent.base ≤ address ∧ address < extent.base + extent.size := by
  constructor
  · intro keeps address filled
    obtain ⟨succeeded, span, member, contained⟩ := fills_iff.1 filled
    obtain ⟨argument, inOutputs, rfl⟩ := List.mem_map.1 member
    have mapped : extent.Maps argument.span := Decidable.not_not.1 fun outside =>
      keeps ⟨succeeded, argument, inOutputs, outside⟩
    exact Extent.maps_iff.1 mapped address contained
  · rintro inside ⟨succeeded, argument, inOutputs, outside⟩
    refine outside (Extent.maps_iff.2 fun address contained => inside address ?_)
    exact fills_iff.2 ⟨succeeded, _, List.mem_map_of_mem inOutputs, contained⟩

end CallReturn

namespace Analysis

/-- The label of a byte that a call with the given number fills. -/
def filledLabel (analysis : Analysis) (number : UInt32) : UInt8 :=
  if analysis.sourceCalls.contains number then analysis.sourceLabel else 0

variable {analysis : Analysis} {replay : Replay} {call other : CallReturn} {id : UInt32}

/-- A return leaves the label of its number on what it fills, though it cleans it first. -/
theorem lookup_returnJournal
    {address : Nat}
    (filled : call.Fills address) :
    (analysis.returnJournal call).lookup address = some (analysis.filledLabel call.number) := by
  obtain ⟨succeeded, contained⟩ := CallReturn.fills_iff.1 filled
  rw [returnJournal, isSource, succeeded, Bool.true_and, if_pos rfl, filledLabel]
  split
  · rw [List.lookup_append, Span.lookup_journalAll contained, Option.some_or]
  · exact Span.lookup_journalAll contained

theorem writes_returnJournal_iff {address : Nat} :
    (analysis.returnJournal call).Writes address ↔ call.Fills address := by
  rw [CallReturn.fills_iff, returnJournal, isSource, Journal.writes_append_iff]
  cases call.succeeded with
  | false => simp
  | true =>
      rw [Bool.true_and, if_pos rfl, Span.writes_journalAll_iff]
      split
      · rw [Span.writes_journalAll_iff, or_self, and_iff_right rfl]
      · simp

/-- A return allocates the pages of what it fills, if the label is not zero. -/
theorem taints_returnJournal_iff {base number : Nat} :
    (analysis.returnJournal call).Taints base number ↔
      analysis.filledLabel call.number ≠ 0 ∧
        ∃ address, call.Fills address ∧ (address - base) / pageSize = number := by
  have cleans (spans : List Span) : ¬(Span.journalAll 0 spans).Taints base number :=
    fun taints => (Span.taints_journalAll_iff.1 taints).1 rfl
  have nothing : ¬Journal.Taints [] base number := by
    rintro ⟨_, member, -⟩
    cases member
  simp only [CallReturn.fills_iff, returnJournal, isSource, filledLabel, Journal.taints_append_iff]
  by_cases succeeded : call.succeeded = true
  · by_cases source : analysis.sourceCalls.contains call.number = true
    · simp only [succeeded, source, Bool.and_self, if_true, cleans, or_false, true_and,
        Span.taints_journalAll_iff]
    · simp only [succeeded, source, Bool.and_false, if_true, if_false, cleans, nothing, or_false,
        true_and, ne_eq, not_true, false_and, Bool.false_eq_true]
  · simp only [succeeded, Bool.false_and, if_false, nothing, or_false, false_and, and_false,
      exists_false, Bool.false_eq_true]

/-- An event runs to its end unless it violates its contract. -/
theorem apply_ran_iff {event : Event} :
    (analysis.apply replay event).result = .ok () ↔
      ¬event.Violates replay.memory.extent analysis.config (replay.executes event) := by
  rw [(analysis.apply_meets replay event).result_eq, ← Event.violates_iff]
  cases event.violation? replay.memory.extent analysis.config (replay.executes event) with
  | none => simp
  | some fault => simp

/-- What a return does to a replay. -/
def returnEffect
    (analysis : Analysis)
    (replay : Replay)
    (id : UInt32)
    (call : CallReturn) : Effect :=
  (Replay.effectOf (replay.threads.find? id).isSome (fun statistics _ => statistics)
    (analysis.returnDeed call (replay.view id).thread)).counting .oneEvent

theorem id_returnEffect
    (analysis : Analysis)
    (replay : Replay)
    (id : UInt32)
    (call : CallReturn) :
    (analysis.returnEffect replay id call).id = id :=
  replay.id_view id

theorem apply_callReturn_done
    (ran : (analysis.apply replay (.callReturn id call)).result = .ok ()) :
    (analysis.returnEffect replay id call).Done replay
      (analysis.apply replay (.callReturn id call)) := by
  obtain ⟨_, left⟩ := Replay.action_ran Replay.countEvent_eq ran
  have done := leaveCall_done left
  rw [← Replay.view_countEvent replay id] at done
  have named := analysis.id_returnEffect replay id call
  rw [returnEffect, ← Replay.view_countEvent replay id] at named ⊢
  exact (Replay.within_done (fun statistics _ => (Statistics.add_zero statistics).symm) named
    done).of_counted replay.countEvent_eq

/-- Calls that fill the same bytes leave the same labels and pages. -/
theorem returnJournal_congr
    (analysis : Analysis)
    (number : other.number = call.number)
    (fills : ∀ address, other.Fills address ↔ call.Fills address) :
    (∀ address, (analysis.returnJournal other).lookup address =
      (analysis.returnJournal call).lookup address) ∧
    ∀ base page, (analysis.returnJournal other).Taints base page ↔
      (analysis.returnJournal call).Taints base page := by
  constructor
  · intro address
    by_cases filled : call.Fills address
    · rw [lookup_returnJournal filled, lookup_returnJournal ((fills address).2 filled), number]
    · have unwritten : ¬(analysis.returnJournal call).Writes address :=
        fun written => filled (writes_returnJournal_iff.1 written)
      have otherUnwritten : ¬(analysis.returnJournal other).Writes address :=
        fun written => filled ((fills address).1 (writes_returnJournal_iff.1 written))
      rw [Journal.lookup_eq_none unwritten, Journal.lookup_eq_none otherUnwritten]
  · intro base page
    rw [taints_returnJournal_iff, taints_returnJournal_iff, number]
    simp only [fills]

/-- Calls that fill the same bytes return alike. -/
theorem apply_callReturn_congr
    {reached : Replay}
    (number : other.number = call.number)
    (fills : ∀ address, other.Fills address ↔ call.Fills address)
    (ran : analysis.apply replay (.callReturn id call) = .done reached ()) :
    analysis.apply replay (.callReturn id other) =
      .done { reached with
        findings := replay.findings.addInput (analysis.sourceBytes other) } () := by
  have ended : (analysis.apply replay (.callReturn id call)).result = .ok () := by rw [ran]; rfl
  have mapped := CallReturn.not_violates_iff.1 (apply_ran_iff.1 ended)
  have otherEnded : (analysis.apply replay (.callReturn id other)).result = .ok () :=
    apply_ran_iff.2 (CallReturn.not_violates_iff.2 fun address filled =>
      mapped address ((fills address).1 filled))
  have done := apply_callReturn_done ended
  have otherDone := apply_callReturn_done otherEnded
  obtain ⟨labels, pages⟩ := analysis.returnJournal_congr number fills
  rw [ran] at done
  rw [Reached.eq_done otherEnded]
  generalize analysis.apply replay (.callReturn id other) = again at otherDone
  obtain ⟨⟨memory, threads, counted, findings⟩, _⟩ := again
  have sameMemory : memory = reached.memory := otherDone.memory.eq done.memory labels pages
  have sameThreads : threads = reached.threads := otherDone.threads.trans done.threads.symm
  have sameCounts : counted = reached.counted := otherDone.counted.trans done.counted.symm
  have found : findings = replay.findings.addInput (analysis.sourceBytes other) :=
    otherDone.findings.trans (Findings.addInput_eq ..).symm
  rw [sameMemory, sameThreads, sameCounts, found]

/-- Buffers in another order bring in as many bytes. -/
theorem sourceBytes_of_perm
    (analysis : Analysis)
    (number : other.number = call.number)
    (succeeded : other.succeeded = call.succeeded)
    (permuted : (other.arguments.getD []).Perm (call.arguments.getD [])) :
    analysis.sourceBytes other = analysis.sourceBytes call := by
  have outputs : other.outputs.Perm call.outputs := permuted.filter _
  have lengths := outputs.map fun argument => argument.length.toNat
  rw [sourceBytes, sourceBytes, isSource, isSource, number, succeeded]
  congr 1
  exact lengths.sum_nat

/-- A return that ran has given one label to the bytes in its output buffers, clean or that of
the source, and has kept all other bytes. In the thread the result register is clean and no
call is pending; the rest of it and the other threads are as before. Calls that fill the same
bytes, such as those with the same buffers more than once, return with the same effect, but
for the number of bytes that are counted as input; for buffers in another order this is the
same too. -/
theorem return_fills_outputs
    (analysis : Analysis)
    (replay reached : Replay)
    (id : UInt32)
    (call : CallReturn)
    (ran : analysis.apply replay (.callReturn id call) = .done reached ()) :
    (∀ address, call.Fills address ->
      reached.memory.labels.label address = analysis.filledLabel call.number) ∧
    (∀ address, ¬call.Fills address ->
      reached.memory.labels.label address = replay.memory.labels.label address) ∧
    reached.memory.extent = replay.memory.extent ∧
    reached.threads.find? id =
      some { (replay.view id).thread with
        registers := (replay.view id).thread.registers.set Reg.r0 Lanes.clean
        pendingCall := none } ∧
    (∀ other, other ≠ id -> reached.threads.find? other = replay.threads.find? other) ∧
    reached.findings = replay.findings.addInput (analysis.sourceBytes call) ∧
    (∀ other : CallReturn, other.succeeded = call.succeeded ->
      (∀ argument, argument ∈ other.arguments.getD [] ↔ argument ∈ call.arguments.getD []) ->
      ∀ address, other.Fills address ↔ call.Fills address) ∧
    (∀ other : CallReturn, other.number = call.number ->
      (∀ address, other.Fills address ↔ call.Fills address) ->
      analysis.apply replay (.callReturn id other) =
        .done { reached with
          findings := replay.findings.addInput (analysis.sourceBytes other) } ()) ∧
    ∀ other : CallReturn, other.number = call.number -> other.succeeded = call.succeeded ->
      (other.arguments.getD []).Perm (call.arguments.getD []) ->
      analysis.apply replay (.callReturn id other) = .done reached () := by
  have ended : (analysis.apply replay (.callReturn id call)).result = .ok () := by rw [ran]; rfl
  have mapped := CallReturn.not_violates_iff.1 (apply_ran_iff.1 ended)
  obtain ⟨-, threads, -, findings, memory⟩ := ran ▸ apply_callReturn_done ended
  have named := analysis.id_returnEffect replay id call
  dsimp only [Reached.done] at threads findings memory
  have found : reached.findings = replay.findings.addInput (analysis.sourceBytes call) :=
    findings.trans (Findings.addInput_eq ..).symm
  refine ⟨?filled, ?kept, ?extent, ?thread, ?others, found, fun _ => CallReturn.fills_congr,
    fun _ number fills => apply_callReturn_congr number fills ran, ?reordered⟩
  case filled =>
    intro address filled
    rw [memory.label_eq_getD (mapped address filled).1]
    exact congrArg (Option.getD · _) (lookup_returnJournal filled)
  case kept =>
    intro address unfilled
    exact memory.label_eq fun written => unfilled (writes_returnJournal_iff.1 written)
  case extent => rw [Memory.extent, Memory.extent, memory.base, memory.size]
  case thread =>
    rw [threads, Effect.find?_leave, if_pos named.symm]
    rfl
  case others =>
    intro other different
    rw [threads, Effect.find?_leave, named, if_neg different]
  case reordered =>
    intro other number succeeded permuted
    have fills := CallReturn.fills_congr succeeded fun _ => permuted.mem_iff
    rw [apply_callReturn_congr number fills ran,
      analysis.sourceBytes_of_perm number succeeded permuted, ← found]

/-- A source fills two buffers that overlap, one of them twice; it reads another one, and a
third one is empty. -/
theorem return_fills_outputs_overlapping :
    let call : CallReturn :=
      ⟨3, true, some [⟨.output, 2, 4⟩, ⟨.both, 4, 4⟩, ⟨.input, 10, 2⟩, ⟨.output, 2, 4⟩,
        ⟨.output, 12, 0⟩]⟩
    let other : CallReturn := ⟨3, true, some [⟨.both, 4, 4⟩, ⟨.output, 2, 3⟩]⟩
    let analysis : Analysis := ⟨AnalysisConfig.standard, [3], 5⟩
    let memory : Memory := ⟨0, 16, #[none], by decide, by decide⟩
    ∃ reached, analysis.apply (Replay.start memory) (.callReturn 1 call) = .done reached () ∧
      reached.memory.labels.label 5 = 5 ∧
      reached.memory.labels.label 11 = memory.labels.label 11 ∧
      analysis.apply (Replay.start memory) (.callReturn 1 other) =
        .done { reached with findings := Findings.none.addInput 7 } () := by
  intro call other analysis memory
  have fills (address : Nat) : call.Fills address ↔ 2 ≤ address ∧ address < 8 := by
    simp [call, CallReturn.Fills, Direction.isOutput, MemoryArgument.span, Span.Contains]
    omega
  have otherFills (address : Nat) : other.Fills address ↔ 2 ≤ address ∧ address < 8 := by
    simp [other, CallReturn.Fills, Direction.isOutput, MemoryArgument.span, Span.Contains]
    omega
  have mapped (address : Nat) (filled : call.Fills address) :
      0 ≤ address ∧ address < 0 + 16 := by
    have inside := (fills address).1 filled
    omega
  have ended : (analysis.apply (Replay.start memory) (.callReturn 1 call)).result = .ok () :=
    apply_ran_iff.2 (CallReturn.not_violates_iff.2 mapped)
  have ran := Reached.eq_done ended
  obtain ⟨filled, kept, -, -, -, -, -, alike, -⟩ :=
    return_fills_outputs analysis (Replay.start memory) _ 1 call ran
  refine ⟨_, ran, filled 5 ((fills 5).2 (by decide)), kept 11 fun filled => ?_,
    alike other rfl fun address => (otherFills address).trans (fills address).symm⟩
  exact absurd ((fills 11).1 filled).2 (by decide)

end Analysis
end ShadowTaint
