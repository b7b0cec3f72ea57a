import ShadowTaint.Trace.Replay

/-!
# Totals

A replay only adds to what it has counted, and only appends to what it has found. So the
counts of several events do not depend on their order, and neither do the opcodes that
are taken in from several threads; of the findings, the order alone depends on it.
-/

namespace ShadowTaint

namespace Tally

theorem merge_comm (first second : Tally) : first.merge second = second.merge first := by
  apply Tally.ext
  apply Vector.ext
  intro index inside
  simp [merge, Nat.add_comm]

theorem merge_assoc (first second third : Tally) :
    (first.merge second).merge third = first.merge (second.merge third) := by
  apply Tally.ext
  apply Vector.ext
  intro index inside
  simp [merge, Nat.add_assoc]

@[simp] theorem merge_empty (tally : Tally) : tally.merge empty = tally := by
  apply Tally.ext
  apply Vector.ext
  intro index inside
  simp [merge, empty]

@[simp] theorem empty_merge (tally : Tally) : empty.merge tally = tally := by
  rw [merge_comm, merge_empty]

end Tally

namespace Statistics

/-- The counts of both together. -/
def add (first second : Statistics) : Statistics where
  events := first.events + second.events
  executed := first.executed + second.executed
  skipped := first.skipped + second.skipped
  unhandled := first.unhandled + second.unhandled
  calls := first.calls + second.calls
  controlRequests := first.controlRequests + second.controlRequests
  threads := first.threads + second.threads
  unhandledOpcodes := first.unhandledOpcodes.merge second.unhandledOpcodes

/-- One event. -/
def oneEvent : Statistics := { zero with events := 1 }

/-- One system call that is about to be entered. -/
def oneCall : Statistics := { zero with calls := 1 }

/-- One thread that has begun. -/
def oneThread : Statistics := { zero with threads := 1 }

theorem add_comm (first second : Statistics) : first.add second = second.add first := by
  simp only [add, Nat.add_comm, Tally.merge_comm]

theorem add_assoc (first second third : Statistics) :
    (first.add second).add third = first.add (second.add third) := by
  simp only [add, Nat.add_assoc, Tally.merge_assoc]

theorem add_right_comm (counted first second : Statistics) :
    (counted.add first).add second = (counted.add second).add first := by
  rw [add_assoc, add_comm first, add_assoc]

@[simp] theorem add_zero (statistics : Statistics) : statistics.add zero = statistics := by
  simp [add, zero]

theorem countOutcome_eq (statistics : Statistics) (outcome : StepOutcome) :
    statistics.countOutcome outcome = statistics.add (zero.countOutcome outcome) := by
  cases outcome <;> simp [countOutcome, add, zero]

theorem countDisposition_eq (statistics : Statistics) (disposition : CallDisposition) :
    statistics.countDisposition disposition =
      statistics.add (zero.countDisposition disposition) := by
  cases disposition <;> simp [countDisposition, add, zero]

theorem takeIn_eq (statistics : Statistics) (thread : Thread) :
    statistics.takeIn thread = statistics.add (zero.takeIn thread) := by
  simp [takeIn, add, zero]

/-- Threads may be taken in in any order. -/
theorem foldl_takeIn_of_perm
    {first second : List Thread}
    (rearranged : first.Perm second)
    (statistics : Statistics) :
    first.foldl takeIn statistics = second.foldl takeIn statistics := by
  have both (counted : Statistics) (one other : Thread) :
      (counted.takeIn one).takeIn other =
        (counted.add (zero.takeIn one)).add (zero.takeIn other) := by
    rw [takeIn_eq (counted.takeIn one), takeIn_eq counted]
  apply rearranged.foldl_eq'
  intro one _ other _ counted
  rw [both, both, add_right_comm]

end Statistics

namespace Replay

theorem countEvent_eq (replay : Replay) :
    replay.countEvent = { replay with counted := replay.counted.add .oneEvent } := by
  simp [countEvent, Statistics.add, Statistics.oneEvent, Statistics.zero]

theorem countCall_eq (replay : Replay) :
    replay.countCall = { replay with counted := replay.counted.add .oneCall } := by
  simp [countCall, Statistics.add, Statistics.oneCall, Statistics.zero]

/-- A thread is counted when it begins. -/
theorem counted_begin (replay : Replay) (id : UInt32) :
    (replay.begin id).counted =
      replay.counted.add (if (replay.threads.find? id).isSome then .zero else .oneThread) := by
  rw [begin]
  split
  · rw [Statistics.add_zero]
  · simp [Statistics.add, Statistics.oneThread, Statistics.zero]

end Replay

namespace Findings

/-- What was found later, behind what was found earlier. -/
def append (earlier later : Findings) : Findings where
  jumps := earlier.jumps ++ later.jumps
  accesses := earlier.accesses ++ later.accesses
  inputBytes := earlier.inputBytes + later.inputBytes

@[simp] theorem append_none (findings : Findings) : findings.append none = findings := by
  simp [append, none]

theorem append_assoc (first second third : Findings) :
    (first.append second).append third = first.append (second.append third) := by
  simp [append, Nat.add_assoc]

/-- Findings are told by their lists. -/
theorem eq_of_toList
    {first second : Findings}
    (jumps : first.jumps.toList = second.jumps.toList)
    (accesses : first.accesses.toList = second.accesses.toList)
    (inputBytes : first.inputBytes = second.inputBytes) :
    first = second := by
  obtain ⟨_, _, _⟩ := first
  obtain ⟨_, _, _⟩ := second
  cases Array.toList_inj.1 jumps
  cases Array.toList_inj.1 accesses
  cases inputBytes
  rfl

theorem addAccesses_eq (findings : Findings) (accesses : List TaintedAccess) :
    findings.addAccesses accesses = findings.append (none.addAccesses accesses) := by
  apply eq_of_toList
  · simp [append, addAccesses, none]
  · simp [append, addAccesses, none]
  · rfl

theorem addJump_eq (findings : Findings) (jump? : Option TaintedJump) :
    findings.addJump jump? = findings.append (none.addJump jump?) := by
  apply eq_of_toList
  · simp [append, addJump, none]
  · simp [append, addJump, none]
  · rfl

theorem addInput_eq (findings : Findings) (bytes : Nat) :
    findings.addInput bytes = findings.append (none.addInput bytes) := by
  simp [append, addInput, none]

/-- The same was found, in whatever order. -/
structure SameUpToOrder (first second : Findings) : Prop where
  jumps : first.jumps.toList.Perm second.jumps.toList
  accesses : first.accesses.toList.Perm second.accesses.toList
  inputBytes : first.inputBytes = second.inputBytes

namespace SameUpToOrder

variable {first second third : Findings}

theorem refl (findings : Findings) : findings.SameUpToOrder findings := ⟨.rfl, .rfl, rfl⟩

theorem trans
    (one : first.SameUpToOrder second)
    (other : second.SameUpToOrder third) :
    first.SameUpToOrder third :=
  ⟨one.jumps.trans other.jumps, one.accesses.trans other.accesses,
    one.inputBytes.trans other.inputBytes⟩

/-- The same may be found later. -/
theorem append (same : first.SameUpToOrder second) (later : Findings) :
    (first.append later).SameUpToOrder (second.append later) where
  jumps := by simpa [Findings.append] using same.jumps.append_right later.jumps.toList
  accesses := by simpa [Findings.append] using same.accesses.append_right later.accesses.toList
  inputBytes := congrArg (· + later.inputBytes) same.inputBytes

/-- Findings of two events may be exchanged. -/
theorem append_right_comm (found first second : Findings) :
    ((found.append first).append second).SameUpToOrder
      ((found.append second).append first) where
  jumps := by
    simpa [Findings.append] using List.perm_append_comm.append_left found.jumps.toList
  accesses := by
    simpa [Findings.append] using List.perm_append_comm.append_left found.accesses.toList
  inputBytes := Nat.add_right_comm ..

end SameUpToOrder
end Findings
end ShadowTaint
