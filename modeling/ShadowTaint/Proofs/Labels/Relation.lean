import ShadowTaint.Flow.Shadow
import ShadowTaint.Proofs.Shadow.Refinement

/-!
# Related labels

Several runs of one program introduce different labels. A `LabelRelation` says how
the labels of the same byte in all the runs are related; it holds of clean bytes and
is kept by the union, the only two things that a taint rule makes of labels. The
relation extends lane by lane to registers and address by address to memory.
Related runs also end alike: no access is mapped in one run and not in another.
-/

namespace ShadowTaint

/-- A relation between the labels of one byte in several runs. -/
structure LabelRelation (Run : Type) where
  holds : (Run -> UInt8) -> Prop
  zero : holds fun _ => 0
  union : ∀ {first second}, holds first -> holds second ->
    holds fun run => first run ||| second run

/-- All runs give one value. -/
def Unanimous (values : Run -> Value) : Prop := ∃ value, values = fun _ => value

theorem Unanimous.map
    {values : Run -> Value}
    (unanimous : Unanimous values)
    (change : Value -> Other) :
    Unanimous fun run => change (values run) := by
  obtain ⟨value, rfl⟩ := unanimous
  exact ⟨change value, rfl⟩

theorem Unanimous.eq
    {values : Run -> Value}
    (unanimous : Unanimous values)
    (run other : Run) :
    values run = values other := by
  obtain ⟨value, rfl⟩ := unanimous
  rfl

/-- All the runs of an operation come to their end with related states and values,
or all of them are stopped for the same cause. -/
inductive Alike
    (related : (Run -> State) -> (Run -> Value) -> Prop) :
    (Run -> Reached Cause State Value) -> Prop
  | done {states : Run -> State} {values : Run -> Value} (ends : related states values) :
      Alike related fun run => .done (states run) (values run)
  | stopped (states : Run -> State) (cause : Cause) :
      Alike related fun run => .stopped (states run) cause

namespace Alike

variable {Run State Value Next Other Cause : Type}
  {related : (Run -> State) -> (Run -> Value) -> Prop}

/-- Operations that end alike and continue alike end alike. -/
theorem andThen
    {runs : Run -> Reached Cause State Value}
    {next : Run -> State -> Value -> Reached Cause State Other}
    {relatedNext : (Run -> State) -> (Run -> Other) -> Prop}
    (first : Alike related runs)
    (continues : ∀ states values, related states values ->
      Alike relatedNext fun run => next run (states run) (values run)) :
    Alike relatedNext fun run => (runs run).andThen (next run) := by
  cases first with
  | done ends => exact continues _ _ ends
  | stopped states cause => exact .stopped states cause

theorem mapState
    {runs : Run -> Reached Cause State Value}
    {relatedNext : (Run -> Next) -> (Run -> Value) -> Prop}
    (first : Alike related runs)
    (change : Run -> State -> Next)
    (changes : ∀ states values, related states values ->
      relatedNext (fun run => change run (states run)) values) :
    Alike relatedNext fun run => (runs run).mapState (change run) := by
  cases first with
  | done ends => exact .done (changes _ _ ends)
  | stopped states cause => exact .stopped (fun run => change run (states run)) cause

theorem imp
    {runs : Run -> Reached Cause State Value}
    {weaker : (Run -> State) -> (Run -> Value) -> Prop}
    (first : Alike related runs)
    (weaken : ∀ states values, related states values -> weaker states values) :
    Alike weaker runs := by
  cases first with
  | done ends => exact .done (weaken _ _ ends)
  | stopped states cause => exact .stopped states cause

theorem congr
    {runs others : Run -> Reached Cause State Value}
    (same : ∀ run, runs run = others run)
    (first : Alike related others) :
    Alike related runs := by
  rw [funext same]
  exact first

theorem ofStopped
    {runs : Run -> Reached Cause State Value}
    (states : Run -> State)
    (cause : Cause)
    (each : ∀ run, runs run = .stopped (states run) cause) :
    Alike related runs :=
  congr each (.stopped states cause)

/-- Runs that end alike with one value have one result. -/
theorem result
    {runs : Run -> Reached Cause State Value}
    (first : Alike (fun _ values => Unanimous values) runs) :
    Unanimous fun run => (runs run).result := by
  cases first with
  | done ends => exact ends.map Except.ok
  | stopped states cause => exact ⟨.error cause, rfl⟩

/-- Runs that end alike where one of them ends all end, related. -/
theorem ends
    {runs : Run -> Reached Cause State Value}
    {value : Value}
    (first : Alike related runs)
    (run : Run)
    (ended : (runs run).result = .ok value) :
    ∃ states values, related states values ∧
      ∀ run, runs run = .done (states run) (values run) := by
  cases first with
  | @done states values ends => exact ⟨states, values, ends, fun _ => rfl⟩
  | stopped states cause => cases ended

/-- The states after stores that end alike, or their common fault. -/
theorem final
    {runs : Run -> Reached Cause State Unit}
    {relatedStates : (Run -> State) -> Prop}
    (first : Alike (fun states _ => relatedStates states) runs) :
    (∃ states, relatedStates states ∧ ∀ run, (runs run).final = .ok (states run)) ∨
      ∃ cause, ∀ run, (runs run).final = .error cause := by
  cases first with
  | @done states values ends => exact .inl ⟨states, ends, fun _ => rfl⟩
  | stopped states cause => exact .inr ⟨cause, fun _ => rfl⟩

end Alike

namespace LabelRelation

variable {Run : Type} {relation : LabelRelation Run} {base size : Nat}

/-! ## Registers -/

/-- The lists have related labels at every position, and zero behind their ends. -/
def Lists (relation : LabelRelation Run) (lists : Run -> List UInt8) : Prop :=
  ∀ position, relation.holds fun run => (lists run).getD position 0

/-- The taint of a register is related lane by lane. -/
def Taints (relation : LabelRelation Run) (taints : Run -> Lanes) : Prop :=
  relation.Lists fun run => (taints run).toList

/-- The taint of every register is related. -/
def Files (relation : LabelRelation Run) (files : Run -> RegisterFile) : Prop :=
  ∀ reg, relation.Taints fun run => (files run).get reg

theorem Taints.ofLanes
    {taints : Run -> Lanes}
    (lane0 : relation.holds fun run => (taints run).lane0)
    (lane1 : relation.holds fun run => (taints run).lane1)
    (lane2 : relation.holds fun run => (taints run).lane2)
    (lane3 : relation.holds fun run => (taints run).lane3) :
    relation.Taints taints
  | 0 => lane0
  | 1 => lane1
  | 2 => lane2
  | 3 => lane3
  | _ + 4 => relation.zero

theorem Taints.ofList
    {lists : Run -> List UInt8}
    (related : relation.Lists lists) :
    relation.Taints fun run => Lanes.ofList (lists run) :=
  .ofLanes (related 0) (related 1) (related 2) (related 3)

theorem Taints.clean : relation.Taints fun _ => Lanes.clean :=
  .ofLanes relation.zero relation.zero relation.zero relation.zero

theorem Taints.union
    {first second : Run -> Lanes}
    (firstRelated : relation.Taints first)
    (secondRelated : relation.Taints second) :
    relation.Taints fun run => (first run).union (second run) :=
  .ofLanes
    (relation.union (firstRelated 0) (secondRelated 0))
    (relation.union (firstRelated 1) (secondRelated 1))
    (relation.union (firstRelated 2) (secondRelated 2))
    (relation.union (firstRelated 3) (secondRelated 3))

theorem Taints.truncate
    {taints : Run -> Lanes}
    (related : relation.Taints taints)
    (width : Width) :
    relation.Taints fun run => (taints run).truncate width := by
  cases width with
  | byte => exact .ofLanes (related 0) relation.zero relation.zero relation.zero
  | half => exact .ofLanes (related 0) (related 1) relation.zero relation.zero
  | word => exact related

theorem Taints.take
    {taints : Run -> Lanes}
    (related : relation.Taints taints)
    (width : Width) :
    relation.Lists fun run => (taints run).toList.take width.bytes := by
  intro position
  by_cases inside : position < width.bytes
  · simpa only [List.getD_eq_getElem?_getD, List.getElem?_take_of_lt inside] using
      related position
  · have beyond (taint : Lanes) : (taint.toList.take width.bytes).getD position 0 = 0 := by
      rw [List.getD_eq_getElem?_getD, List.getElem?_eq_none]
      · rfl
      · rw [Memory.length_take_lanes]
        omega
    simpa only [beyond] using relation.zero

theorem Files.clean : relation.Files fun _ => RegisterFile.clean := by
  intro reg
  simpa only [RegisterFile.get_clean] using Taints.clean

theorem Files.set
    {files : Run -> RegisterFile}
    {taints : Run -> Lanes}
    (related : relation.Files files)
    (taint : relation.Taints taints)
    (reg : Reg) :
    relation.Files fun run => (files run).set reg (taints run) := by
  intro read
  by_cases same : read = reg
  · simpa only [RegisterFile.get_set, if_pos same] using taint
  · simpa only [RegisterFile.get_set, if_neg same] using related read

theorem Files.union
    {files : Run -> RegisterFile}
    (related : relation.Files files)
    (regs : List Reg) :
    relation.Taints fun run => (files run).union regs := by
  induction regs with
  | nil => exact Taints.clean
  | cons reg rest inductionHypothesis =>
      simpa only [RegisterFile.union_cons] using (related reg).union inductionHypothesis

/-! ## Memory -/

/-- Plain maps of one range with related labels at every address. -/
structure Maps
    (relation : LabelRelation Run)
    (base size : Nat)
    (maps : Run -> LabelMap) : Prop where
  base_eq : ∀ run, (maps run).base = base
  size_eq : ∀ run, (maps run).size = size
  label : ∀ address, relation.holds fun run => (maps run).label address

/-- Memories that stand for related maps. -/
def Memories
    (relation : LabelRelation Run)
    (base size : Nat)
    (memories : Run -> Memory) : Prop :=
  relation.Maps base size fun run => (memories run).labels

namespace Maps

variable {maps : Run -> LabelMap}

/-- An access is mapped in all runs or in none. -/
theorem covers_iff
    (related : relation.Maps base size maps)
    (run : Run)
    (first length : Nat) :
    (maps run).Covers first length ↔ (LabelMap.clean base size).Covers first length := by
  rw [LabelMap.Covers, related.base_eq run, related.size_eq run]
  rfl

theorem slice
    (related : relation.Maps base size maps)
    (first length : Nat) :
    relation.Lists fun run => (maps run).slice first length := by
  intro position
  by_cases inside : position < length
  · have here (map : LabelMap) :
        (map.slice first length).getD position 0 = map.label (first + position) := by
      simp [LabelMap.slice, inside]
    simpa only [here] using related.label (first + position)
  · have beyond (map : LabelMap) : (map.slice first length).getD position 0 = 0 := by
      simp [LabelMap.slice, Nat.not_lt.1 inside]
    simpa only [beyond] using relation.zero

theorem store
    {lists : Run -> List UInt8}
    {length : Nat}
    (related : relation.Maps base size maps)
    (stored : relation.Lists lists)
    (sameLength : ∀ run, (lists run).length = length)
    (first : Nat) :
    relation.Maps base size fun run => (maps run).store first (lists run) where
  base_eq := related.base_eq
  size_eq := related.size_eq
  label := by
    intro address
    simp only [LabelMap.store, sameLength]
    split
    · exact stored (address - first)
    · exact related.label address

theorem fill
    {labels : Run -> UInt8}
    (related : relation.Maps base size maps)
    (filled : relation.holds labels)
    (first length : Nat) :
    relation.Maps base size fun run => (maps run).fill first length (labels run) where
  base_eq := related.base_eq
  size_eq := related.size_eq
  label := by
    intro address
    simp only [LabelMap.fill]
    split
    · exact filled
    · exact related.label address

end Maps

namespace Memories

variable {memories : Run -> Memory} {address length : UInt32} {width : Width}

/-- The fault of an access that is not mapped, from the mapped range. -/
def rangeFault (base size : Nat) (address : UInt32) (length : Nat) : Fault :=
  .shadowAccess address.toNat (address.toNat + length) base (base + size)

theorem accessFault_eq
    (related : relation.Memories base size memories)
    (run : Run)
    (address : UInt32)
    (length : Nat) :
    (memories run).accessFault address length = rangeFault base size address length := by
  rw [rangeFault, ← related.base_eq run, ← related.size_eq run]
  rfl

/-- Stores that leave related maps end alike. -/
theorem ofLeavesMap
    {stores : Run -> Reached Fault Memory Unit}
    {maps : Run -> LabelMap}
    (related : relation.Maps base size maps)
    (each : ∀ run, Memory.LeavesMap (stores run) (maps run)) :
    Alike (fun nexts _ => relation.Memories base size nexts) stores := by
  obtain ⟨nexts, ends⟩ := Classical.skolem.1 each
  have runs : stores = fun run => .done (nexts run) () := funext fun run => (ends run).1
  rw [runs]
  refine .done ?_
  rw [Memories, funext fun run => (ends run).2]
  exact related

theorem storeLanes
    {taints : Run -> Lanes}
    (related : relation.Memories base size memories)
    (taint : relation.Taints taints) :
    Alike (fun nexts _ => relation.Memories base size nexts)
      fun run => (memories run).storeLanes address width (taints run) := by
  by_cases covers : (LabelMap.clean base size).Covers address.toNat width.bytes
  · have stored := Maps.store related (taint.take width)
      (fun run => Memory.length_take_lanes (taints run) width) address.toNat
    exact ofLeavesMap stored fun run =>
      Memory.storeLanes_ok (taints run) ((Maps.covers_iff related run _ _).2 covers)
  · refine .ofStopped memories (rangeFault base size address width.bytes) fun run => ?_
    rw [Memory.storeLanes_error _ (mt (Maps.covers_iff related run _ _).1 covers),
      accessFault_eq related]

theorem storeRange
    {labels : Run -> UInt8}
    (related : relation.Memories base size memories)
    (label : relation.holds labels) :
    Alike (fun nexts _ => relation.Memories base size nexts)
      fun run => (memories run).storeRange address length (labels run) := by
  by_cases covers : (LabelMap.clean base size).Covers address.toNat length.toNat
  · exact ofLeavesMap (Maps.fill related label address.toNat length.toNat) fun run =>
      Memory.storeRange_ok (labels run) ((Maps.covers_iff related run _ _).2 covers)
  · refine .ofStopped memories (rangeFault base size address length.toNat) fun run => ?_
    rw [Memory.storeRange_error _ (mt (Maps.covers_iff related run _ _).1 covers),
      accessFault_eq related]

end Memories

/-! ## What a rule sees -/

/-- Related registers and memories. -/
structure Shadows
    (relation : LabelRelation Run)
    (base size : Nat)
    (shadows : Run -> Shadow) : Prop where
  files : relation.Files fun run => (shadows run).registers
  memories : relation.Memories base size fun run => (shadows run).memory

/-- Operations on related shadow states that keep them related and give the same
value in all runs. -/
def Keeps
    (relation : LabelRelation Run)
    (base size : Nat)
    (runs : Run -> Reached Fault Shadow Value) : Prop :=
  Alike
    (fun shadows values =>
      relation.Shadows base size shadows ∧ Unanimous values) runs

namespace Shadows

variable {shadows : Run -> Shadow} {address length : UInt32} {width : Width}

theorem keeps (related : relation.Shadows base size shadows) (value : Value) :
    relation.Keeps base size fun run => .done (shadows run) value :=
  .done ⟨related, value, rfl⟩

theorem set
    {taints : Run -> Lanes}
    (related : relation.Shadows base size shadows)
    (taint : relation.Taints taints)
    (reg : Reg) :
    relation.Shadows base size fun run => (shadows run).set reg (taints run) where
  files := related.files.set taint reg
  memories := related.memories

theorem clean (related : relation.Shadows base size shadows) (reg : Reg) :
    relation.Shadows base size fun run => (shadows run).clean reg :=
  related.set Taints.clean reg

theorem load (related : relation.Shadows base size shadows) :
    Alike (fun nexts taints => relation.Shadows base size nexts ∧ relation.Taints taints)
      fun run => (shadows run).load address width := by
  by_cases covers : (LabelMap.clean base size).Covers address.toNat width.bytes
  · have loads (run : Run) : (shadows run).load address width =
        .done (shadows run) ((shadows run).memory.labels.lanes address.toNat width) := by
      rw [Shadow.load, Memory.read_ok ((Maps.covers_iff related.memories run _ _).2 covers)]
    rw [funext loads]
    exact .done ⟨related, .ofList (Maps.slice related.memories _ _)⟩
  · refine .ofStopped shadows
      (Memories.rangeFault base size address width.bytes) fun run => ?_
    rw [Shadow.load,
      Memory.read_error (mt (Maps.covers_iff related.memories run _ _).1 covers),
      Memories.accessFault_eq related.memories]

theorem changeMemory
    {changes : Run -> Memory -> Reached Fault Memory Unit}
    (related : relation.Shadows base size shadows)
    (changed : Alike (fun nexts _ => relation.Memories base size nexts)
      fun run => changes run (shadows run).memory) :
    relation.Keeps base size fun run => (shadows run).changeMemory (changes run) := by
  refine changed.mapState (fun run memory => Shadow.mk (shadows run).registers memory) ?_
  intro memories _ memoriesRelated
  exact ⟨⟨related.files, memoriesRelated⟩, (), rfl⟩

theorem store
    {taints : Run -> Lanes}
    (related : relation.Shadows base size shadows)
    (taint : relation.Taints taints) :
    relation.Keeps base size fun run => (shadows run).store address width (taints run) :=
  related.changeMemory (related.memories.storeLanes taint)

theorem fill
    {labels : Run -> UInt8}
    (related : relation.Shadows base size shadows)
    (label : relation.holds labels) :
    relation.Keeps base size fun run => (shadows run).fill address length (labels run) :=
  related.changeMemory (related.memories.storeRange label)

end Shadows
end LabelRelation
end ShadowTaint
