import ShadowTaint.Proofs.Access.Contract
import ShadowTaint.Proofs.Flow.Step
import ShadowTaint.Proofs.Shadow.Journal

/-!
# What instructions read and store

An instruction stores into memory what the registers say, so its journal does not depend
on the memory at all; and what it leaves in the registers depends on the memory only
through the labels that its footprint reads. Both are read off the simultaneous
assignment that an instruction is.
-/

namespace ShadowTaint

/-! ## Journals of parts -/

namespace SlotStore

/-- The bytes of a store. -/
def span (store : SlotStore) : Span := ⟨store.first, store.width.bytes⟩

/-- The labels that a store leaves. -/
def journal (store : SlotStore) : Journal :=
  .ofRange store.first.toNat store.width.bytes fun lane =>
    (store.lanes.toList.take store.width.bytes).getD lane 0

theorem writes_journal_iff {store : SlotStore} {address : Nat} :
    store.journal.Writes address ↔ store.span.Contains address :=
  Journal.writes_ofRange_iff

end SlotStore

namespace Span

/-- The labels that filling a range leaves. -/
def journal (label : UInt8) (span : Span) : Journal :=
  .ofRange span.first.toNat span.length fun _ => label

theorem writes_journal_iff {label : UInt8} {span : Span} {address : Nat} :
    (span.journal label).Writes address ↔ span.Contains address :=
  Journal.writes_ofRange_iff

/-- The labels that filling several ranges leaves. -/
def journalAll (label : UInt8) (spans : List Span) : Journal :=
  .inOrder (spans.map (journal label))

theorem writes_journalAll_iff {label : UInt8} {spans : List Span} {address : Nat} :
    (journalAll label spans).Writes address ↔ ∃ span ∈ spans, span.Contains address := by
  rw [journalAll, Journal.writes_inOrder_iff]
  constructor
  · rintro ⟨_, member, written⟩
    obtain ⟨span, inSpans, rfl⟩ := List.mem_map.1 member
    exact ⟨span, inSpans, writes_journal_iff.1 written⟩
  · rintro ⟨span, inSpans, contained⟩
    exact ⟨_, List.mem_map_of_mem inSpans, writes_journal_iff.2 contained⟩

end Span

/-- The labels that several stores leave. -/
def storesJournal (stores : List SlotStore) : Journal :=
  .inOrder (stores.map SlotStore.journal)

theorem writes_storesJournal_iff {stores : List SlotStore} {address : Nat} :
    (storesJournal stores).Writes address ↔
      ∃ span ∈ stores.map SlotStore.span, span.Contains address := by
  rw [storesJournal, Journal.writes_inOrder_iff]
  constructor
  · rintro ⟨_, member, written⟩
    obtain ⟨store, inStores, rfl⟩ := List.mem_map.1 member
    exact ⟨_, List.mem_map_of_mem inStores, SlotStore.writes_journal_iff.1 written⟩
  · rintro ⟨_, member, contained⟩
    obtain ⟨store, inStores, rfl⟩ := List.mem_map.1 member
    exact ⟨_, List.mem_map_of_mem inStores, SlotStore.writes_journal_iff.2 contained⟩

/-- An operation that runs to its end has stored what the journal says. -/
def Stored
    (memory : State -> Memory)
    (before : Memory)
    (journal : Journal)
    (reached : Reached Fault State Value) : Prop :=
  ∀ after value, reached = .done after value -> before.Records journal (memory after)

namespace Stored

variable {memory : State -> Memory} {before : Memory} {first second : Journal}

theorem done {state : State} {value : Value} (kept : memory state = before) :
    Stored memory before [] (.done state value) := by
  rintro after _ ran
  cases ran
  rw [kept]
  exact .refl before

theorem stopped
    {state : State}
    {fault : Fault} :
    Stored memory before first (.stopped state fault : Reached Fault State Value) := nofun

theorem andThen
    {reached : Reached Fault State Value}
    {next : State -> Value -> Reached Fault State Other}
    (earlier : Stored memory before first reached)
    (later : ∀ state value, reached = .done state value ->
      Stored memory (memory state) second (next state value)) :
    Stored memory before (second ++ first) (reached.andThen next) := by
  intro after value ran
  obtain ⟨middle, result, reachedMiddle, rest⟩ := Reached.andThen_eq_done_iff.1 ran
  exact (earlier middle result reachedMiddle).trans
    (later middle result reachedMiddle after value rest)

/-- A part that stores nothing comes first. -/
theorem andThen_of_reads
    {reached : Reached Fault State Value}
    {next : State -> Value -> Reached Fault State Other}
    (earlier : Stored memory before [] reached)
    (later : ∀ state value, reached = .done state value ->
      Stored memory (memory state) second (next state value)) :
    Stored memory before second (reached.andThen next) := by
  simpa using earlier.andThen later

/-- A part that stores nothing comes last. -/
theorem andThen_done
    {reached : Reached Fault State Value}
    {next : State -> Value -> Reached Fault State Other}
    (earlier : Stored memory before first reached)
    (later : ∀ state value, reached = .done state value ->
      Stored memory (memory state) [] (next state value)) :
    Stored memory before first (reached.andThen next) :=
  earlier.andThen later

theorem mapState
    {within : Other -> Memory}
    {change : State -> Other}
    {reached : Reached Fault State Value}
    (stored : Stored memory before first reached)
    (kept : ∀ state, within (change state) = memory state) :
    Stored within before first (reached.mapState change) := by
  intro after value ran
  obtain ⟨middle, reachedMiddle, rfl⟩ := Reached.mapState_eq_done_iff.1 ran
  rw [kept]
  exact stored middle value reachedMiddle

end Stored

/-! ## Journals of accesses -/

namespace Memory

theorem storeLanes_stored (memory : Memory) (address : UInt32) (width : Width) (taint : Lanes) :
    Stored id memory (SlotStore.mk address width taint).journal
      (memory.storeLanes address width taint) := by
  intro after value stored
  by_cases covers : memory.labels.Covers address.toNat width.bytes
  · obtain ⟨left, result, records⟩ := storeLanes_records taint covers
    rw [result] at stored
    cases stored
    exact records
  · rw [storeLanes_error taint covers] at stored
    cases stored

theorem storeRange_stored (memory : Memory) (address length : UInt32) (label : UInt8) :
    Stored id memory (Span.journal label ⟨address, length.toNat⟩)
      (memory.storeRange address length label) := by
  intro after value stored
  by_cases covers : memory.labels.Covers address.toNat length.toNat
  · obtain ⟨left, result, records⟩ := storeRange_records label covers
    rw [result] at stored
    cases stored
    exact records
  · rw [storeRange_error label covers] at stored
    cases stored

end Memory

/-! ## Journals of rules -/

namespace Shadow

variable {shadow : Shadow}

theorem load_stored (shadow : Shadow) (address : UInt32) (width : Width) :
    Stored Shadow.memory shadow.memory [] (shadow.load address width) := by
  intro after taint ran
  rw [(load_done ran).1]
  exact .refl shadow.memory

theorem store_stored (shadow : Shadow) (address : UInt32) (width : Width) (taint : Lanes) :
    Stored Shadow.memory shadow.memory (SlotStore.mk address width taint).journal
      (shadow.store address width taint) :=
  (shadow.memory.storeLanes_stored address width taint).mapState fun _ => rfl

theorem fill_stored (shadow : Shadow) (address length : UInt32) (label : UInt8) :
    Stored Shadow.memory shadow.memory (Span.journal label ⟨address, length.toNat⟩)
      (shadow.fill address length label) :=
  (shadow.memory.storeRange_stored address length label).mapState fun _ => rfl

/-- A store keeps the registers. -/
theorem registers_store
    {after : Shadow}
    {address : UInt32}
    {width : Width}
    {taint : Lanes}
    (ran : shadow.store address width taint = .done after ()) :
    after.registers = shadow.registers := by
  obtain ⟨memory, -, rfl⟩ := Reached.mapState_eq_done_iff.1 ran
  rfl

theorem loadSlots_stored (shadow : Shadow) (slots : List (Reg × UInt32)) :
    Stored Shadow.memory shadow.memory [] (shadow.loadSlots slots) := by
  induction slots generalizing shadow with
  | nil => exact .done rfl
  | cons slot rest inductionHypothesis =>
      apply (shadow.load_stored slot.2 .word).andThen_of_reads
      intro after taint _
      exact inductionHypothesis (after.set slot.1 taint)

theorem storeSlots_stored (shadow : Shadow) (slots : List (Reg × UInt32)) :
    Stored Shadow.memory shadow.memory (storesJournal (shadow.snapshot.slotStores slots))
      (shadow.storeSlots slots) := by
  induction slots generalizing shadow with
  | nil => exact .done rfl
  | cons slot rest inductionHypothesis =>
      rw [Snapshot.slotStores, List.map_cons, storesJournal, List.map_cons,
        Journal.inOrder_cons]
      apply (shadow.store_stored slot.2 .word (shadow.registers.get slot.1)).andThen
      intro after _ ran
      have sameStores : shadow.snapshot.slotStores rest = after.snapshot.slotStores rest := by
        simp only [Snapshot.slotStores, taint_snapshot, registers_store ran]
      have stored := inductionHypothesis after
      rw [← sameStores] at stored
      exact stored

end Shadow

namespace Operation

variable {config : AnalysisConfig} {context : Context} {operation : Operation}

/-- What an operation stores does not depend on the memory. -/
theorem stores_congr
    {first second : Snapshot}
    (same : first.taint = second.taint)
    (config : AnalysisConfig)
    (context : Context)
    (operation : Operation) :
    operation.stores config context first = operation.stores config context second := by
  cases operation <;> simp only [stores, Snapshot.slotStores, same]

/-- The stores of an operation are the writes of its footprint. -/
theorem span_stores (before : Snapshot) :
    (operation.stores config context before).map SlotStore.span =
      (operation.footprint config context).writes := by
  cases operation with
  | storeMultiple block =>
      simp only [stores, Snapshot.slotStores, List.map_map]
      rfl
  | _ => rfl

/-- The rule of an operation stores what its registers say. -/
theorem propagate_stored
    (config : AnalysisConfig)
    (opcode : Opcode)
    (context : Context)
    (operation : Operation)
    (shadow : Shadow) :
    Stored Shadow.memory shadow.memory
      (storesJournal (operation.stores config context shadow.snapshot))
      (operation.propagate config opcode context shadow) := by
  cases operation with
  | load width target mem =>
      apply (shadow.load_stored (mem.address context) width).andThen_of_reads
      intro after loaded _
      exact .done (by simp)
  | loadDual low high mem =>
      apply (shadow.load_stored (mem.address context) .word).andThen_of_reads
      intro middle first _
      apply (middle.load_stored (mem.address context + 4) .word).andThen_of_reads
      intro after second _
      exact .done (by simp)
  | store width source mem status =>
      simp only [stores, storesJournal, List.map_cons, List.map_nil, Journal.inOrder_singleton]
      apply (shadow.store_stored (mem.address context) width _).andThen_done
      intro after _ _
      exact .done (by simp)
  | storeDual low high mem status =>
      simp only [stores, storesJournal, List.map_cons, List.map_nil, Journal.inOrder_cons,
        Journal.inOrder_nil, List.nil_append]
      apply (shadow.store_stored (mem.address context) .word _).andThen
      intro middle _ _
      apply (middle.store_stored (mem.address context + 4) .word _).andThen_done
      intro after _ _
      exact .done (by simp)
  | loadMultiple block => exact shadow.loadSlots_stored _
  | storeMultiple block => exact shadow.storeSlots_stored _
  | arithmetic target left right =>
      cases left with
      | immediate leftValue =>
          cases right with
          | immediate rightValue => exact .stopped
          | _ => exact .done rfl
      | _ => exact .done rfl
  | constant target => exact .done (memory_constant opcode target shadow)
  | branch link target => exact .done (memory_branch link target shadow)
  | _ => exact .done rfl

end Operation

/-! ## What a rule reads -/

/-- Two snapshots have the same labels wherever a footprint reads. -/
def Footprint.Agree (footprint : Footprint) (first second : LabelMap) : Prop :=
  ∀ address, footprint.Reads address -> first.label address = second.label address

namespace Snapshot

variable {first second : Snapshot}

theorem loaded_congr
    {footprint : Footprint}
    {address : UInt32}
    {width : Width}
    (agree : footprint.Agree first.memory second.memory)
    (read : ⟨address, width.bytes⟩ ∈ footprint.reads) :
    first.loaded address width = second.loaded address width := by
  rw [loaded, loaded, LabelMap.lanes, LabelMap.lanes, LabelMap.slice, LabelMap.slice]
  congr 1
  apply List.map_congr_left
  intro position member
  have inside := List.mem_range.1 member
  refine agree _ ⟨_, read, ?_, ?_⟩
  · dsimp only
    omega
  · dsimp only
    omega

theorem slotLoads_congr
    {footprint : Footprint}
    {slots : List (Reg × UInt32)}
    (agree : footprint.Agree first.memory second.memory)
    (read : ∀ slot ∈ slots, ⟨slot.2, 4⟩ ∈ footprint.reads) :
    first.slotLoads slots = second.slotLoads slots := by
  apply List.map_congr_left
  rintro ⟨reg, address⟩ member
  have same : first.loaded address .word = second.loaded address .word :=
    loaded_congr agree (read _ member)
  exact congrArg (Prod.mk reg) same

theorem union_congr (same : first.taint = second.taint) (regs : List Reg) :
    first.union regs = second.union regs := by
  rw [union, same, union]

end Snapshot

namespace Operation

variable {config : AnalysisConfig} {context : Context} {operation : Operation}

/-- What an operation assigns depends on the memory only where its footprint reads. -/
theorem assignments_congr
    {first second : Snapshot}
    (same : first.taint = second.taint)
    (agree : (operation.footprint config context).Agree first.memory second.memory)
    (opcode : Opcode) :
    operation.assignments config opcode context first =
      operation.assignments config opcode context second := by
  have unions := Snapshot.union_congr same
  have bases (mem : MemRef) : mem.baseAssignment first = mem.baseAssignment second := by
    simp only [MemRef.baseAssignment, unions]
  have indices (mem : MemRef) : mem.indexTaint config first = mem.indexTaint config second := by
    simp only [MemRef.indexTaint, unions]
  cases operation with
  | load width target mem =>
      have loaded : first.loaded (mem.address context) width =
          second.loaded (mem.address context) width :=
        Snapshot.loaded_congr agree (List.mem_singleton.2 rfl)
      simp only [assignments, loaded, bases, indices]
  | loadDual low high mem =>
      have lowLoaded : first.loaded (mem.address context) .word =
          second.loaded (mem.address context) .word :=
        Snapshot.loaded_congr agree List.mem_cons_self
      have highLoaded : first.loaded (mem.address context + 4) .word =
          second.loaded (mem.address context + 4) .word :=
        Snapshot.loaded_congr agree (List.mem_cons_of_mem _ (List.mem_singleton.2 rfl))
      simp only [assignments, lowLoaded, highLoaded, bases, indices]
  | loadMultiple block =>
      exact Snapshot.slotLoads_congr agree fun slot member =>
        List.mem_map.2 ⟨slot, member, rfl⟩
  | _ => simp only [assignments, unions, bases, same]

end Operation

namespace Instruction

variable {config : AnalysisConfig} {context : Context} {instr : Instruction}

/-- The labels that an instruction leaves in memory, from the registers before it. -/
def journal
    (config : AnalysisConfig)
    (context : Context)
    (instr : Instruction)
    (before : Snapshot) : Journal :=
  storesJournal (instr.stores config context before) ++
    Span.journalAll 0 (instr.newFrame config context)

/-- What becomes of an instruction that runs to its end. -/
def outcome (instr : Instruction) : StepOutcome :=
  if instr.opcode.isSimd then .unhandled .simd
  else if instr.zeroingTarget?.isSome then .executed else instr.operation.outcome

theorem journal_congr
    {first second : Snapshot}
    (same : first.taint = second.taint)
    (config : AnalysisConfig)
    (context : Context)
    (instr : Instruction) :
    instr.journal config context first = instr.journal config context second := by
  rw [journal, stores, Operation.stores_congr same, journal, stores]

/-- An instruction writes what its footprint says. -/
theorem writes_journal_iff {before : Snapshot} {address : Nat} :
    (instr.journal config context before).Writes address ↔
      (instr.footprint config context).Writes address := by
  rw [journal, Journal.writes_append_iff, writes_storesJournal_iff,
    Span.writes_journalAll_iff, stores, Footprint.Writes, footprint]
  cases instr.opcode.isSimd with
  | true => simp
  | false =>
      rw [if_neg Bool.false_ne_true, if_neg Bool.false_ne_true, Operation.span_stores]
      simp only [List.mem_append, or_and_right, exists_or]
      exact or_comm

theorem clearNewFrame_stored
    (config : AnalysisConfig)
    (context : Context)
    (instr : Instruction)
    (shadow : Shadow) :
    Stored Shadow.memory shadow.memory (Span.journalAll 0 (instr.newFrame config context))
      (instr.clearNewFrame config context shadow) := by
  rw [newFrame, clearNewFrame]
  cases config.stackAutoClear with
  | false => exact .done rfl
  | true =>
      cases instr.allocatedFrame? with
      | none => exact .done rfl
      | some size =>
          dsimp only
          rw [if_pos rfl]
          split
          · rw [Span.journalAll, List.map_singleton, Journal.inOrder_singleton]
            exact shadow.fill_stored _ size 0
          · exact .done rfl

theorem propagate_stored
    (config : AnalysisConfig)
    (context : Context)
    (instr : Instruction)
    (shadow : Shadow) :
    Stored Shadow.memory shadow.memory
      (storesJournal (instr.stores config context shadow.snapshot))
      (instr.propagate config context shadow) := by
  rw [stores, propagate]
  cases instr.opcode.isSimd with
  | true => exact .done rfl
  | false =>
      rw [if_neg Bool.false_ne_true, if_neg Bool.false_ne_true]
      cases zeroing : instr.zeroingTarget? with
      | some target =>
          rw [stores_of_zeroingTarget? zeroing]
          exact .done rfl
      | none =>
          apply (instr.operation.propagate_stored config instr.opcode context shadow).andThen_done
          intro after _ _
          exact .done rfl

/-- An instruction that has executed has stored its journal. -/
theorem execute_stored
    (config : AnalysisConfig)
    (context : Context)
    (instr : Instruction)
    (shadow : Shadow) :
    Stored Shadow.memory shadow.memory (instr.journal config context shadow.snapshot)
      (instr.execute config context shadow) := by
  apply (instr.clearNewFrame_stored config context shadow).andThen
  intro framed _ cleared
  have sameStores : instr.stores config context framed.snapshot =
      instr.stores config context shadow.snapshot := by
    rw [clearNewFrame_done cleared]
    exact (update_withNewFrame config context instr shadow.snapshot).2
  rw [← sameStores]
  exact instr.propagate_stored config context framed

theorem execute_outcome
    {shadow after : Shadow}
    {outcome : StepOutcome}
    (ran : instr.execute config context shadow = .done after outcome) :
    outcome = instr.outcome := by
  obtain ⟨framed, _, -, propagated⟩ := Reached.andThen_eq_done_iff.1 ran
  rw [propagate] at propagated
  rw [Instruction.outcome]
  cases simd : instr.opcode.isSimd with
  | true =>
      rw [simd] at propagated
      cases propagated
      rfl
  | false =>
      rw [simd, if_neg Bool.false_ne_true] at propagated
      cases zeroing : instr.zeroingTarget? with
      | some target =>
          rw [zeroing] at propagated
          cases propagated
          rfl
      | none =>
          rw [zeroing] at propagated
          obtain ⟨_, _, -, rest⟩ := Reached.andThen_eq_done_iff.1 propagated
          cases rest
          rfl

/-- Nothing but the memory changes when a new frame is cleaned. -/
@[simp] theorem taint_withNewFrame
    (config : AnalysisConfig)
    (context : Context)
    (instr : Instruction)
    (before : Snapshot) :
    (instr.withNewFrame config context before).taint = before.taint := by
  unfold withNewFrame
  split
  · dsimp only
    split <;> rfl
  · rfl

/-- What an instruction leaves in the registers depends on the memory only where its
footprint reads. -/
theorem execute_local
    {first second firstAfter secondAfter : Shadow}
    {firstOutcome secondOutcome : StepOutcome}
    (registers : first.registers = second.registers)
    (agree : (instr.footprint config context).Agree first.memory.labels second.memory.labels)
    (firstRan : instr.execute config context first = .done firstAfter firstOutcome)
    (secondRan : instr.execute config context second = .done secondAfter secondOutcome) :
    firstAfter.registers = secondAfter.registers := by
  have same : first.snapshot.taint = second.snapshot.taint :=
    congrArg RegisterFile.get registers
  have assigned : instr.assignments config context first.snapshot =
      instr.assignments config context second.snapshot := by
    rw [footprint] at agree
    rw [assignments, assignments]
    cases simd : instr.opcode.isSimd with
    | true => rfl
    | false =>
        rw [simd] at agree
        rw [if_neg Bool.false_ne_true, if_neg Bool.false_ne_true]
        cases instr.zeroingTarget? with
        | some target => rfl
        | none => exact Operation.assignments_congr same agree instr.opcode
  apply RegisterFile.ext_get
  intro reg
  have firstTaint := congrArg (fun snapshot : Snapshot => snapshot.taint reg)
    (execute_done firstRan)
  have secondTaint := congrArg (fun snapshot : Snapshot => snapshot.taint reg)
    (execute_done secondRan)
  simp only [Snapshot.update, taint_withNewFrame, Shadow.taint_snapshot] at firstTaint secondTaint
  rw [firstTaint, secondTaint, assigned, registers]

end Instruction
end ShadowTaint
