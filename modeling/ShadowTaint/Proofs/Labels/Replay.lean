import ShadowTaint.Proofs.Labels.Step
import ShadowTaint.Proofs.Trace.View

/-!
# Replays of related traces

Related traces have the same events up to related labels. One event keeps related
replays related and adds findings at the same sites; by induction all the events of
a trace do, and the first fault is met at the same event in all runs. The threads
that are live and all the counts are the same.
-/

namespace ShadowTaint

namespace Event

/-- The event with another label, if it has one. -/
def relabel (label : UInt8) : Event -> Event
  | taint address length (some _) => taint address length (some label)
  | event => event

end Event

namespace LabelRelation

variable {Run : Type} {relation : LabelRelation Run} {base size : Nat}

/-! ## Tables of threads -/

/-- The thread of one run, from what is common and the taint in all runs. -/
def threadIn (run : Run) (entry : Thread × (Run -> RegisterFile)) : Thread :=
  { entry.1 with registers := entry.2 run }

/-- Tables with the same threads up to related taint. -/
inductive Tables (relation : LabelRelation Run) : (Run -> ThreadTable) -> Prop
  | intro
      (entries : List (Thread × (Run -> RegisterFile)))
      (files_related : ∀ entry ∈ entries, relation.Files entry.2) :
      Tables relation fun run => ⟨entries.map (threadIn run)⟩

namespace Tables

variable {tables : Run -> ThreadTable}

theorem find?_map
    (entries : List (Thread × (Run -> RegisterFile)))
    (run : Run)
    (id : UInt32) :
    ThreadTable.find? ⟨entries.map (threadIn run)⟩ id =
      (entries.find? fun entry => entry.1.id == id).map (threadIn run) := by
  rw [ThreadTable.find?, List.find?_map]
  rfl

/-- A thread is live in all runs or in none. -/
theorem find? (related : relation.Tables tables) (id : UInt32) :
    (∀ run, (tables run).find? id = none) ∨
      ∃ threads, relation.Threads threads ∧
        ∀ run, (tables run).find? id = some (threads run) := by
  cases related with
  | intro entries filesRelated =>
      cases found : entries.find? fun entry => entry.1.id == id with
      | none =>
          left
          intro run
          rw [find?_map, found]
          rfl
      | some entry =>
          right
          refine ⟨fun run => threadIn run entry,
            .intro entry.1 (filesRelated entry (List.mem_of_find?_eq_some found)), ?_⟩
          intro run
          rw [find?_map, found]
          rfl

/-- Put an entry in place of the one for its thread, or behind the others. -/
def insertEntry
    (entries : List (Thread × (Run -> RegisterFile)))
    (added : Thread × (Run -> RegisterFile)) : List (Thread × (Run -> RegisterFile)) :=
  if (entries.find? fun entry => entry.1.id == added.1.id).isSome then
    entries.map fun entry => if entry.1.id == added.1.id then added else entry
  else entries ++ [added]

theorem mem_insertEntry
    {entries : List (Thread × (Run -> RegisterFile))}
    {added entry : Thread × (Run -> RegisterFile)}
    (member : entry ∈ insertEntry entries added) :
    entry = added ∨ entry ∈ entries := by
  unfold insertEntry at member
  split at member
  · obtain ⟨other, inEntries, same⟩ := List.mem_map.1 member
    split at same
    · exact .inl same.symm
    · exact .inr (same ▸ inEntries)
  · obtain inEntries | new := List.mem_append.1 member
    · exact .inr inEntries
    · exact .inl (List.mem_singleton.1 new)

theorem insert_map
    (entries : List (Thread × (Run -> RegisterFile)))
    (added : Thread × (Run -> RegisterFile))
    (run : Run) :
    ThreadTable.insert ⟨entries.map (threadIn run)⟩ (threadIn run added) =
      ⟨(insertEntry entries added).map (threadIn run)⟩ := by
  rw [ThreadTable.insert, find?_map, Option.isSome_map, insertEntry]
  show (if (entries.find? fun entry => entry.1.id == added.1.id).isSome then _ else _) = _
  split
  · rw [List.map_map, List.map_map]
    congr 1
    apply List.map_congr_left
    intro entry _
    show (if entry.1.id == added.1.id then _ else _) =
      threadIn run (if entry.1.id == added.1.id then added else entry)
    split <;> rfl
  · rw [List.map_append]
    rfl

theorem insert
    {threads : Run -> Thread}
    (related : relation.Tables tables)
    (threadsRelated : relation.Threads threads) :
    relation.Tables fun run => (tables run).insert (threads run) := by
  cases related with
  | intro entries filesRelated =>
  cases threadsRelated with
  | @intro common files filesOf =>
      show relation.Tables fun run =>
        ThreadTable.insert ⟨entries.map (threadIn run)⟩ (threadIn run (common, files))
      rw [funext (insert_map entries (common, files))]
      refine .intro _ ?_
      intro entry member
      obtain rfl | inEntries := mem_insertEntry member
      · exact filesOf
      · exact filesRelated entry inEntries

theorem erase (related : relation.Tables tables) (id : UInt32) :
    relation.Tables fun run => (tables run).erase id := by
  cases related with
  | intro entries filesRelated =>
      have filtered (run : Run) : ThreadTable.erase ⟨entries.map (threadIn run)⟩ id =
          ⟨(entries.filter fun entry => entry.1.id != id).map (threadIn run)⟩ := by
        rw [ThreadTable.erase, List.filter_map]
        rfl
      rw [funext filtered]
      refine .intro _ ?_
      intro entry member
      exact filesRelated entry (List.mem_filter.1 member).1

/-- The counts of the threads are the same in all runs. -/
theorem takeIn (related : relation.Tables tables) (counted : Statistics) :
    Unanimous fun run => (tables run).threads.foldl Statistics.takeIn counted := by
  cases related with
  | intro entries filesRelated =>
      refine ⟨entries.foldl (fun statistics entry => statistics.takeIn entry.1) counted, ?_⟩
      funext run
      exact List.foldl_map

end Tables

/-! ## Replays -/

/-- Replays that differ in taint and findings only; the taint is related. -/
structure Replays
    (relation : LabelRelation Run)
    (base size : Nat)
    (replays : Run -> Replay) : Prop where
  memories : relation.Memories base size fun run => (replays run).memory
  tables : relation.Tables fun run => (replays run).threads
  counted : Unanimous fun run => (replays run).counted

/-- Related replays go on alike to related replays, with findings at the same sites. -/
def Advance
    (relation : LabelRelation Run)
    (base size : Nat)
    (replays : Run -> Replay)
    (runs : Run -> Reached Fault Replay Unit) : Prop :=
  Alike
    (fun nexts _ => relation.Replays base size nexts ∧
      relation.Recorded (fun run => (replays run).findings) fun run => (nexts run).findings)
    runs

namespace Replays

variable {replays : Run -> Replay}

/-- The counts are those of one run. -/
theorem statistics (related : relation.Replays base size replays) :
    Unanimous fun run => (replays run).statistics := by
  obtain ⟨counted, same⟩ := related.counted
  obtain ⟨statistics, taken⟩ := related.tables.takeIn counted
  refine ⟨statistics, ?_⟩
  rw [← taken]
  funext run
  rw [Replay.statistics, congrFun same run]

/-- Counting the same in all runs keeps replays related. -/
theorem count
    (related : relation.Replays base size replays)
    (counts : Statistics -> Statistics) :
    relation.Replays base size fun run =>
      { replays run with counted := counts (replays run).counted } where
  memories := related.memories
  tables := related.tables
  counted := related.counted.map counts

/-- A thread begins in all runs or in none. -/
theorem begin (related : relation.Replays base size replays) (id : UInt32) :
    relation.Replays base size fun run => (replays run).begin id := by
  unfold Replay.begin
  obtain absent | ⟨threads, -, present⟩ := related.tables.find? id
  · simp only [absent, Option.isSome_none, Bool.false_eq_true, if_false]
    exact {
      memories := related.memories
      tables := related.tables.insert (.intro (Thread.start id) Files.clean)
      counted := related.counted.map fun counted =>
        { counted with threads := counted.threads + 1 } }
  · simpa only [present, Option.isSome_some, if_true] using related

theorem findings_begin (replay : Replay) (id : UInt32) :
    (replay.begin id).findings = replay.findings := by
  unfold Replay.begin
  split <;> rfl

/-- The same thread comes into view in all runs. -/
theorem view (related : relation.Replays base size replays) (id : UInt32) :
    relation.Foci base size fun run => (replays run).view id := by
  have begun := related.begin id
  have focus {threads : Run -> Thread} (threadsRelated : relation.Threads threads) :
      relation.Foci base size fun run =>
        ⟨threads run, ((replays run).begin id).memory, ((replays run).begin id).findings⟩ := by
    cases threadsRelated with
    | intro common files => exact .intro common _ files begun.memories
  unfold Replay.view
  obtain absent | ⟨threads, threadsRelated, present⟩ := begun.tables.find? id
  · simp only [absent, Option.getD_none]
    exact focus (.intro (Thread.start id) Files.clean)
  · simpa only [present, Option.getD_some] using focus threadsRelated

/-- An occasion in one thread advances related replays, if its values count alike. -/
theorem within
    {common : (Run -> Value) -> Prop}
    {actions : Run -> Focus -> Reached Fault Focus Value}
    {counts : Statistics -> Value -> Statistics}
    (related : relation.Replays base size replays)
    (id : UInt32)
    (acted : relation.Occasion base size common (fun run => (replays run).view id)
      fun run => actions run ((replays run).view id))
    (alike : ∀ counted values, common values ->
      Unanimous fun run => counts counted (values run)) :
    relation.Advance base size replays fun run =>
      (replays run).within id (actions run) counts := by
  have begun := related.begin id
  have start : (fun run => ((replays run).view id).findings) =
      fun run => (replays run).findings := funext fun run => findings_begin _ _
  have put : Alike
      (fun nexts values => relation.Replays base size nexts ∧
        relation.Recorded (fun run => (replays run).findings) (fun run => (nexts run).findings) ∧
        common values)
      fun run => (actions run ((replays run).view id)).mapState
        ((replays run).begin id).putBack := by
    refine acted.mapState (fun run => ((replays run).begin id).putBack) ?_
    rintro foci values ⟨fociRelated, recorded, commonValues⟩
    rw [start] at recorded
    exact ⟨⟨fociRelated.memories, begun.tables.insert fociRelated.threads, begun.counted⟩,
      recorded, commonValues⟩
  refine .congr (fun run => Replay.within_eq _ _ _ _) (put.andThen ?_)
  rintro nexts values ⟨nextsRelated, recorded, commonValues⟩
  obtain ⟨counted, same⟩ := nextsRelated.counted
  obtain ⟨after, sameAfter⟩ := alike counted values commonValues
  refine .done ⟨⟨nextsRelated.memories, nextsRelated.tables, after, ?_⟩, recorded⟩
  rw [← sameAfter]
  funext run
  show counts (nexts run).counted _ = _
  rw [congrFun same run]

/-- Filling a range advances related replays. -/
theorem changeMemory
    {labels : Run -> UInt8}
    (related : relation.Replays base size replays)
    (labelsRelated : relation.holds labels)
    (address length : UInt32) :
    relation.Advance base size replays fun run =>
      (replays run).changeMemory fun memory => memory.fill address length (labels run) := by
  obtain ⟨nexts, nextsRelated, filled⟩ | ⟨fault, failed⟩ :=
    related.memories.fill labelsRelated address length
  · have ends : relation.Advance base size replays fun run =>
        .done { replays run with memory := nexts run } () :=
      .done ⟨⟨nextsRelated, related.tables, related.counted⟩,
        .ofEq (fun _ => rfl) (fun _ => rfl)⟩
    refine Alike.congr (fun run => ?_) ends
    rw [Replay.changeMemory, filled run]
  · refine .ofStopped replays fault fun run => ?_
    rw [Replay.changeMemory, failed run]

/-- A thread ends in all runs or in none. -/
theorem endThread (related : relation.Replays base size replays) (id : UInt32) :
    relation.Replays base size fun run => (replays run).endThread id := by
  unfold Replay.endThread
  obtain absent | ⟨threads, threadsRelated, present⟩ := related.tables.find? id
  · simpa only [absent] using related
  · simp only [present]
    cases threadsRelated with
    | intro common files =>
        exact {
          memories := related.memories
          tables := related.tables.erase id
          counted := related.counted.map fun counted => counted.takeIn common }

theorem findings_endThread (replay : Replay) (id : UInt32) :
    (replay.endThread id).findings = replay.findings := by
  unfold Replay.endThread
  split <;> rfl

/-- One event advances related replays. -/
theorem apply
    {analyses : Run -> Analysis}
    {labels : Run -> UInt8}
    (related : relation.Replays base size replays)
    (analysesRelated : relation.Analyses analyses)
    (labelsRelated : relation.holds labels)
    (event : Event) :
    relation.Advance base size replays fun run =>
      (analyses run).apply (replays run) (event.relabel (labels run)) := by
  have counted : relation.Replays base size fun run => (replays run).countEvent :=
    related.count fun counted => { counted with events := counted.events + 1 }
  cases event with
  | step id instr context =>
      apply counted.within id ((counted.view id).step analysesRelated instr context)
      rintro counted values ⟨outcome, rfl⟩
      exact ⟨_, rfl⟩
  | callEntry id number arguments =>
      have called : relation.Replays base size fun run => (replays run).countEvent.countCall :=
        counted.count fun counted => { counted with calls := counted.calls + 1 }
      refine called.within id
        ((called.view id).enterCall analysesRelated number arguments) ?_
      intro counted values same
      cases same <;> exact ⟨_, rfl⟩
  | callReturn id call =>
      show relation.Advance base size _ fun run =>
        (replays run).countEvent.within id ((analyses run).leaveCall call)
          fun statistics _ => statistics
      apply counted.within id ((counted.view id).leaveCall analysesRelated call)
      intro counted _ _
      exact ⟨counted, rfl⟩
  | taint address length label? =>
      cases label? with
      | some label => exact counted.changeMemory labelsRelated address length
      | none =>
          cases analysesRelated with
          | intro config calls defaultRelated sourceRelated =>
              exact counted.changeMemory defaultRelated address length
  | untaint address length => exact counted.changeMemory relation.zero address length
  | threadExit id =>
      refine .done ⟨counted.endThread id, .ofEq ?_ ?_⟩
      · intro run
        exact congrArg Findings.accesses (findings_endThread _ id)
      · intro run
        exact congrArg Findings.jumps (findings_endThread _ id)

/-- A register is live in all runs or in none, with related taint. -/
theorem taint? (related : relation.Replays base size replays) (id : UInt32) (reg : Reg) :
    (∀ run, (replays run).taint? id reg = none) ∨
      ∃ taints, relation.Taints taints ∧
        ∀ run, (replays run).taint? id reg = some (taints run) := by
  unfold Replay.taint?
  obtain absent | ⟨threads, threadsRelated, present⟩ := related.tables.find? id
  · simp only [absent, Option.map_none, implies_true, true_or]
  · cases threadsRelated with
    | intro common files =>
        refine .inr ⟨_, files reg, fun run => ?_⟩
        rw [present]
        rfl

/-- One thing comes of an instruction in all runs. -/
theorem outcome?
    {analyses : Run -> Analysis}
    (related : relation.Replays base size replays)
    (analysesRelated : relation.Analyses analyses)
    (event : Event) :
    Unanimous fun run => (analyses run).outcome? (replays run) event := by
  cases event with
  | step id instr context =>
      have stepped := (related.view id).step analysesRelated instr context
      have result := Alike.result (stepped.imp fun _ _ ends => ends.2.2)
      exact result.map some
  | _ => exact ⟨none, rfl⟩

end Replays

/-! ## Traces -/

/-- Traces of the same events up to labels, which are related. -/
inductive Traces (relation : LabelRelation Run) : (Run -> List Event) -> Prop
  | nil : Traces relation fun _ => []
  | cons
      (event : Event)
      {labels : Run -> UInt8}
      {rest : Run -> List Event}
      (labels_related : relation.holds labels)
      (rest_related : Traces relation rest) :
      Traces relation fun run => event.relabel (labels run) :: rest run

/-- Related traces are replayed alike: to related replays, or to the same fault. What
findings at the same sites preserve holds of the findings at the end. -/
theorem Replays.applyAll
    {analyses : Run -> Analysis}
    {traces : Run -> List Event}
    {replays : Run -> Replay}
    {invariant : (Run -> Findings) -> Prop}
    (related : relation.Replays base size replays)
    (analysesRelated : relation.Analyses analyses)
    (tracesRelated : relation.Traces traces)
    (kept : ∀ befores afters, relation.Recorded befores afters -> invariant befores ->
      invariant afters)
    (holds : invariant fun run => (replays run).findings) :
    Alike
      (fun nexts _ => relation.Replays base size nexts ∧
        invariant fun run => (nexts run).findings)
      fun run => (analyses run).applyAll (replays run) (traces run) := by
  induction tracesRelated generalizing replays with
  | nil => exact .done ⟨related, holds⟩
  | cons event labelsRelated restRelated inductionHypothesis =>
      apply Alike.andThen (related.apply analysesRelated labelsRelated event)
      rintro nexts _ ⟨nextsRelated, recorded⟩
      exact inductionHypothesis nextsRelated (kept _ _ recorded holds)

/-- The last event of related traces adds findings at the same sites. -/
theorem Replays.recorded
    {analyses : Run -> Analysis}
    {pasts : Run -> List Event}
    {replays : Run -> Replay}
    {labels : Run -> UInt8}
    {event : Event}
    {run : Run}
    (related : relation.Replays base size replays)
    (analysesRelated : relation.Analyses analyses)
    (pastsRelated : relation.Traces pasts)
    (labelsRelated : relation.holds labels)
    (ended : ((analyses run).applyAll (replays run)
      (pasts run ++ [event.relabel (labels run)])).result = .ok ()) :
    relation.Recorded
      (fun run => ((analyses run).applyAll (replays run) (pasts run)).state.findings)
      fun run => ((analyses run).applyAll (replays run)
        (pasts run ++ [event.relabel (labels run)])).state.findings := by
  simp only [Analysis.applyAll_concat] at ended ⊢
  obtain ⟨past, value, pastRan, -⟩ := Reached.andThen_eq_done_iff.1 (Reached.eq_done ended)
  have replayed := related.applyAll analysesRelated pastsRelated
    (fun _ _ _ _ => trivial) trivial
  obtain ⟨middles, values, ⟨middlesRelated, -⟩, applied⟩ :=
    replayed.ends run (congrArg Reached.result pastRan)
  rw [applied run] at ended
  obtain ⟨nexts, _, ⟨-, recorded⟩, nextApplied⟩ :=
    (middlesRelated.apply analysesRelated labelsRelated event).ends run ended
  simp only [applied, Reached.andThen_done, nextApplied]
  exact recorded

/-- Replays over one clean memory are related from the start. -/
theorem Replays.start
    {memory : Memory}
    (clean : memory.labels = LabelMap.clean base size) :
    relation.Replays base size fun _ => Replay.start memory where
  memories := by
    show relation.Maps base size fun _ => memory.labels
    rw [clean]
    exact ⟨fun _ => rfl, fun _ => rfl, fun _ => relation.zero⟩
  tables := .intro [] fun _ member => nomatch member
  counted := ⟨_, rfl⟩

end LabelRelation
end ShadowTaint
