import Mathlib.Data.List.Induction
import Mathlib.Data.Set.Card
import ShadowTaint.Proofs.Shadow.History
import ShadowTaint.Proofs.Shadow.Journal

/-!
# Pages appear with their first nonzero label

A page that is absent stands for labels that are all zero, so only a nonzero label needs
one. One operation adds exactly the pages into which it stores such labels, and a fault
adds none. By induction the pages of a memory at any time are those into which some
operation before has stored a nonzero label, whatever was cleaned since.
-/

namespace ShadowTaint

theorem Memory.store_records
    {memory : Memory}
    {address : UInt32}
    (label : UInt8)
    (covers : memory.labels.Covers address.toNat 1) :
    ∃ after, memory.store address label = .done after () ∧
      memory.Records (.ofRange address.toNat 1 fun _ => label) after := by
  obtain ⟨offset, found, located, inside⟩ := locate_ok covers Nat.one_pos
  have single (position : Nat) :
      position = offset ↔ offset ≤ position ∧ position < offset + 1 := by omega
  have placed : offset < memory.size := by omega
  have leaves := storeLabel_leaves label placed
  have allocates : memory.Allocates (memory.storeLabel offset label)
      (TaintedPage offset (offset + 1) fun _ => label) := by
    refine (storeLabel_allocates label (by omega)).congr fun number => or_congr_right ?_
    constructor
    · rintro ⟨tainted, here⟩
      exact ⟨offset, by omega, by omega, tainted, here⟩
    · rintro ⟨position, lower, upper, tainted, here⟩
      cases (single position).2 ⟨lower, upper⟩
      exact ⟨tainted, here⟩
  simp only [single] at leaves
  have stored := Leaves.records offset 1 (fun _ => label) leaves allocates
  rw [store, found]
  rwa [located] at stored

namespace MemoryOperation

open Memory

variable {memory : Memory} {operation : MemoryOperation} {number : Nat}

/-- The labels that an operation stores if its range is mapped, each with its address. -/
def journal : MemoryOperation -> Journal
  | set address label => .ofRange address.toNat 1 fun _ => label
  | write address width lanes =>
      .ofRange address.toNat width.bytes fun lane => (lanes.toList.take width.bytes).getD lane 0
  | fill address length label => .ofRange address.toNat length.toNat fun _ => label
  | clean address length => .ofRange address.toNat length.toNat fun _ => 0
  | get _ | read _ _ | isTainted _ _ | slice _ _ => []

/-- Some operation of a history ran to its end and stored a nonzero label into a page. -/
def TaintsPage (memory : Memory) (operations : List MemoryOperation) (number : Nat) : Prop :=
  ∃ earlier operation later, operations = earlier ++ operation :: later ∧
    (∃ answer, (operation.perform (performAll memory earlier).1).result = .ok answer) ∧
    operation.journal.Taints memory.base.toNat number

/-! ## One operation -/

theorem storing_records
    {reached : Reached Fault Memory Unit}
    {journal : Journal}
    (stored : ∃ after, reached = .done after () ∧ memory.Records journal after) :
    ∃ after, storing reached = .done after .stored ∧ memory.Records journal after := by
  obtain ⟨after, rfl, records⟩ := stored
  exact ⟨after, rfl, records⟩

/-- An operation on a mapped range stores its journal. -/
theorem perform_records (inside : operation.Inside memory.labels) :
    ∃ after answer, operation.perform memory = .done after answer ∧
      memory.Records operation.journal after := by
  have asked {Value : Type} {encode : Value -> MemoryAnswer} {result : Except Fault Value}
      {value : Value} (answered : result = .ok value) :
      ∃ after answer, asking memory encode result = .done after answer ∧
        memory.Records [] after :=
    ⟨memory, _, congrArg (asking memory encode) answered, .refl memory⟩
  cases operation with
  | get address => exact asked (get_ok inside)
  | read address width => exact asked (read_ok inside)
  | isTainted address length => exact asked (isTainted_ok inside)
  | slice address length => exact asked (slice_ok inside)
  | set address label =>
      obtain ⟨after, ran, records⟩ := storing_records (store_records label inside)
      exact ⟨after, _, ran, records⟩
  | write address width lanes =>
      obtain ⟨after, ran, records⟩ := storing_records (storeLanes_records lanes inside)
      exact ⟨after, _, ran, records⟩
  | fill address length label =>
      obtain ⟨after, ran, records⟩ := storing_records (storeRange_records label inside)
      exact ⟨after, _, ran, records⟩
  | clean address length =>
      obtain ⟨after, ran, records⟩ := storing_records (storeRange_records 0 inside)
      exact ⟨after, _, ran, records⟩

/-- An operation that is no fault adds the pages into which it stores nonzero labels, and a
fault adds none. -/
theorem hasPage_perform (operation : MemoryOperation) (memory : Memory) (number : Nat) :
    (operation.perform memory).state.HasPage number ↔
      memory.HasPage number ∨
        (∃ answer, (operation.perform memory).result = .ok answer) ∧
          operation.journal.Taints memory.base.toNat number := by
  by_cases inside : operation.Inside memory.labels
  · obtain ⟨after, answer, ran, records⟩ := perform_records inside
    rw [ran]
    simp [Reached.done, records.page]
  · rw [operation.perform_outside memory inside]
    simp [Reached.stopped]

theorem base_perform (operation : MemoryOperation) (memory : Memory) :
    (operation.perform memory).state.base = memory.base := by
  by_cases inside : operation.Inside memory.labels
  · obtain ⟨after, answer, ran, records⟩ := perform_records inside
    rw [ran]
    exact records.base
  · rw [operation.perform_outside memory inside]
    rfl

/-! ## Histories -/

theorem performAll_append (memory : Memory) (earlier later : List MemoryOperation) :
    (performAll memory (earlier ++ later)).1 =
      (performAll (performAll memory earlier).1 later).1 := by
  induction earlier generalizing memory with
  | nil => rfl
  | cons operation rest inductionHypothesis => exact inductionHypothesis _

theorem base_performAll (memory : Memory) (operations : List MemoryOperation) :
    (performAll memory operations).1.base = memory.base := by
  induction operations generalizing memory with
  | nil => rfl
  | cons operation rest inductionHypothesis =>
      exact (inductionHypothesis _).trans (operation.base_perform memory)

theorem not_taintsPage_nil : ¬TaintsPage memory [] number := by
  rintro ⟨earlier, operation, later, split, -⟩
  cases earlier <;> cases split

/-- A longer history taints the pages of the shorter one and those of its last operation. -/
theorem taintsPage_concat (memory : Memory) (earlier : List MemoryOperation) :
    TaintsPage memory (earlier ++ [operation]) number ↔
      TaintsPage memory earlier number ∨
        (∃ answer, (operation.perform (performAll memory earlier).1).result = .ok answer) ∧
          operation.journal.Taints memory.base.toNat number := by
  exact exists_occurrence_concat earlier operation

/-- A history adds the pages that it taints. -/
theorem hasPage_performAll
    (memory : Memory)
    (operations : List MemoryOperation)
    (number : Nat) :
    (performAll memory operations).1.HasPage number ↔
      memory.HasPage number ∨ TaintsPage memory operations number := by
  induction operations using List.reverseRecOn with
  | nil => exact (or_iff_left not_taintsPage_nil).symm
  | append_singleton earlier operation inductionHypothesis =>
      rw [performAll_append, taintsPage_concat, ← or_assoc, ← inductionHypothesis,
        ← base_performAll memory earlier]
      exact hasPage_perform operation _ number

end MemoryOperation

namespace Memory

open MemoryOperation

/-- Fresh memory has no page. -/
theorem not_hasPage_of_create
    {base : UInt32}
    {size : UInt64}
    {memory : Memory}
    (created : create base size = .ok memory)
    (number : Nat) :
    ¬memory.HasPage number := by
  rw [create] at created
  split at created
  · cases created
    simp only [HasPage, Array.getElem?_replicate]
    split <;> simp
  · split at created <;> cases created

/-- Of the entries of a table those are counted that are not empty. -/
theorem countP_isSome_eq_ncard (pages : List (Option Page)) :
    pages.countP Option.isSome = {number : Nat | pages[number]?.join.isSome = true}.ncard := by
  induction pages using List.reverseRecOn with
  | nil => simp
  | append_singleton earlier page inductionHypothesis =>
      have grown (number : Nat) :
          (earlier ++ [page])[number]?.join.isSome = true ↔
            earlier[number]?.join.isSome = true ∨ page.isSome = true ∧ number = earlier.length := by
        rw [List.getElem?_append]
        split
        · rename_i below
          simp [Nat.ne_of_lt below]
        · rename_i beyond
          rw [List.getElem?_eq_none (Nat.le_of_not_lt beyond), List.getElem?_singleton]
          by_cases last : number = earlier.length
          · simp [last]
          · rw [if_neg (by omega)]
            simp [last]
      have bounded : {number : Nat | earlier[number]?.join.isSome = true}.Finite := by
        refine (Set.finite_lt_nat earlier.length).subset fun number present => ?_
        apply Classical.not_not.1
        intro beyond
        rw [Set.mem_ofPred_eq, List.getElem?_eq_none (Nat.le_of_not_lt beyond)] at present
        cases present
      rw [List.countP_append, List.countP_singleton, inductionHypothesis]
      simp only [grown]
      cases page with
      | none => simp
      | some page =>
          have absent : earlier.length ∉ {number : Nat | earlier[number]?.join.isSome = true} := by
            simp
          rw [Option.isSome_some, if_pos rfl, ← Set.ncard_insert_of_notMem absent bounded]
          congr 1
          ext number
          simp [or_comm]

theorem allocatedPages_eq_ncard (memory : Memory) :
    memory.allocatedPages = {number | memory.HasPage number}.ncard := by
  rw [allocatedPages, ← Array.countP_toList, countP_isSome_eq_ncard]
  simp only [HasPage, Array.getElem?_toList]

/-- A mapped byte of an absent page is clean. -/
theorem get_of_not_hasPage
    {memory : Memory}
    {address : UInt32}
    (covers : memory.labels.Covers address.toNat 1)
    (absent : ¬memory.HasPage ((address.toNat - memory.base.toNat) / pageSize)) :
    memory.get address = .ok 0 := by
  have clean : memory.labels.label address.toNat = 0 := by
    simp only [labels, labelAt_of_not_hasPage absent, ite_self]
  rw [get_ok covers, clean]

/-- After any operations on fresh memory, faults among them, a page is allocated exactly if one
of them ran to its end and stored a nonzero label into it, and the count of allocated pages is
the number of such pages. So an operation that stores no label but zero, or none, allocates
nothing, an allocated page stays, and a byte of any other page is clean. -/
theorem allocated_iff_tainted
    (base : UInt32)
    (size : UInt64)
    (fresh : Memory)
    (created : create base size = .ok fresh)
    (operations : List MemoryOperation) :
    let reached := (performAll fresh operations).1
    (∀ number, reached.HasPage number ↔ TaintsPage fresh operations number) ∧
    reached.allocatedPages = {number | TaintsPage fresh operations number}.ncard ∧
    (∀ operation : MemoryOperation, (∀ entry ∈ operation.journal, entry.2 = 0) →
      ∀ number, (operation.perform reached).state.HasPage number ↔ reached.HasPage number) ∧
    (∀ later number, reached.HasPage number →
      (performAll reached later).1.HasPage number) ∧
    ∀ address : UInt32,
      base.toNat ≤ address.toNat → address.toNat < base.toNat + size.toNat →
      ¬reached.HasPage ((address.toNat - base.toNat) / pageSize) →
      reached.get address = .ok 0 := by
  intro reached
  have allocated (number : Nat) :
      reached.HasPage number ↔ TaintsPage fresh operations number :=
    (hasPage_performAll fresh operations number).trans
      (or_iff_right (not_hasPage_of_create created number))
  refine ⟨allocated, ?counted, ?zeros, ?stays, ?clean⟩
  case counted =>
    rw [allocatedPages_eq_ncard]
    simp only [allocated]
  case zeros =>
    intro operation zeros number
    rw [hasPage_perform]
    refine or_iff_left ?_
    rintro ⟨-, entry, stored, tainted, -⟩
    exact tainted (zeros entry stored)
  case stays =>
    intro later number present
    exact (hasPage_performAll reached later number).2 (.inl present)
  case clean =>
    intro address lower upper absent
    have start := labels_of_create created
    have range : reached.labels.base = base.toNat ∧ reached.labels.size = size.toNat := by
      have history := congrArg Prod.fst (performAll_refines operations fresh)
      dsimp only at history
      rw [history, start]
      exact range_performAllPlain operations _
    have sameBase : reached.base.toNat = base.toNat := range.1
    apply get_of_not_hasPage
    · refine .inr ⟨?_, ?_⟩ <;> rw [range.1]
      · exact lower
      · rw [range.2]
        exact upper
    · rwa [sameBase]

/-- A word that straddles the first two of three pages taints the second, and a fill of the
first page with zeros and a store outside taint nothing. -/
theorem allocated_iff_tainted_straddling :
    ∃ fresh, create 2 0x30000 = .ok fresh ∧
      let operations : List MemoryOperation :=
        [.write 0x10000 .word ⟨0, 0, 7, 0⟩, .fill 2 0x10000 0, .set 1 9]
      let reached := (performAll fresh operations).1
      reached.HasPage 1 ∧ ¬reached.HasPage 0 ∧ reached.allocatedPages = 1 ∧
        reached.get 0x20005 = .ok 0 := by
  obtain ⟨fresh, created, labels⟩ : ∃ fresh, create 2 0x30000 = .ok fresh ∧
      fresh.labels = LabelMap.clean 2 0x30000 := create_ok (by decide)
  refine ⟨fresh, created, ?_⟩
  intro operations reached
  have base : fresh.base.toNat = 2 := congrArg LabelMap.base labels
  obtain ⟨allocated, counted, -, -, clean⟩ :=
    allocated_iff_tainted 2 0x30000 fresh created operations
  have straddles : operations[0].Inside fresh.labels := by
    rw [labels]
    decide
  obtain ⟨_, _, ran, -⟩ := perform_records straddles
  have outside (memory : Memory) (same : memory.base = fresh.base) :
      ¬∃ answer, (operations[2].perform memory).result = .ok answer := by
    have below : ¬operations[2].Inside memory.labels := by
      rintro (empty | ⟨lower, -⟩)
      · cases empty
      · change memory.base.toNat ≤ 1 at lower
        rw [same, base] at lower
        omega
    rw [perform_outside _ _ below]
    rintro ⟨answer, stored⟩
    cases stored
  have tainted (number : Nat) : TaintsPage fresh operations number ↔ number = 1 := by
    show TaintsPage fresh ((([] ++ [operations[0]]) ++ [operations[1]]) ++ [operations[2]]) number ↔
      number = 1
    have zeros : ¬operations[1].journal.Taints fresh.base.toNat number := by
      rintro ⟨entry, stored, nonzero, -⟩
      obtain ⟨_, -, rfl⟩ := List.mem_map.1 stored
      exact nonzero rfl
    have word : operations[0].journal = [(65536, 0), (65537, 0), (65538, 7), (65539, 0)] := rfl
    rw [taintsPage_concat, taintsPage_concat, taintsPage_concat]
    simp only [outside _ (base_performAll fresh _), zeros, not_taintsPage_nil, false_and, and_false,
      or_false, false_or]
    rw [and_iff_right ⟨_, congrArg Reached.result ran⟩, word, base]
    simp [Journal.Taints, pageSize, eq_comm]
  have page (number : Nat) : reached.HasPage number ↔ number = 1 :=
    (allocated number).trans (tainted number)
  refine ⟨(page 1).2 rfl, fun present => ?_, ?_, ?_⟩
  · cases (page 0).1 present
  · simp only [tainted] at counted
    rw [counted]
    exact Set.ncard_singleton 1
  · refine clean 0x20005 (by decide) (by decide) fun present => ?_
    exact absurd ((page _).1 present) (by decide)

end Memory
end ShadowTaint
