import ShadowTaint.Proofs.Trace.View

/-!
# What of a machine value can be seen

Of the values that a tracer records, an analysis sees little. A predicate looks at the
four condition flags of a flag word and at no other bit of it, and the rule of an
instruction looks at the registers that form an address. Two replays look the same if
they are equal up to the invisible bits of remembered flags, and an event acts alike on
replays that look the same.
-/

namespace ShadowTaint

namespace Flags

/-- The bits of a flag word that a condition can see. -/
def visible (flags : Flags) : Flags := ofStatus flags.bits

theorem contains_visible
    (flags : Flags)
    {flag : Flags}
    (isFlag : 0xF0000000 &&& flag.bits = flag.bits) :
    flags.visible.contains flag = flags.contains flag := by
  rw [contains, visible, bits_ofStatus, UInt32.and_assoc, isFlag, contains]

end Flags

namespace Cond

/-- A condition sees nothing but the condition flags. -/
theorem holds_visible (cond : Cond) (flags : Flags) :
    cond.holds flags.visible = cond.holds flags := by
  have negative : flags.visible.isNegative = flags.isNegative := flags.contains_visible rfl
  have zero : flags.visible.isZero = flags.isZero := flags.contains_visible rfl
  have carry : flags.visible.isCarry = flags.isCarry := flags.contains_visible rfl
  have overflow : flags.visible.isOverflow = flags.isOverflow := flags.contains_visible rfl
  cases cond <;> simp only [holds, negative, zero, carry, overflow]

theorem holds_congr
    {first second : Flags}
    (same : first.visible = second.visible)
    (cond : Cond) :
    cond.holds first = cond.holds second := by
  rw [← holds_visible, same, holds_visible]

end Cond

/-! ## Registers that form addresses -/

namespace Instruction

/-- The registers whose values an executing instruction looks at: those that form the
address of an access, and the stack pointer if a new frame is to be cleaned. -/
def consultedRegs (config : AnalysisConfig) (instr : Instruction) : List Reg :=
  (instr.operation.addressRegs?.map Prod.fst).getD [] ++
    if config.stackAutoClear && instr.allocatedFrame?.isSome then [Reg.sp] else []

end Instruction

/-- The rule of an operation looks at its address registers only. -/
theorem Operation.propagate_congr
    {operation : Operation}
    {first second : Context}
    (agree : ∀ reg ∈ (operation.addressRegs?.map Prod.fst).getD [],
      first.value reg = second.value reg)
    (config : AnalysisConfig)
    (opcode : Opcode)
    (shadow : Shadow) :
    operation.propagate config opcode first shadow =
      operation.propagate config opcode second shadow := by
  cases operation with
  | load width target mem =>
      rw [propagate, propagateLoad, mem.address_congr first second agree]
      rfl
  | loadDual low high mem =>
      rw [propagate, propagateLoadDual, mem.address_congr first second agree]
      rfl
  | store width source mem status =>
      rw [propagate, propagateStore, mem.address_congr first second agree]
      rfl
  | storeDual low high mem status =>
      rw [propagate, propagateStoreDual, mem.address_congr first second agree]
      rfl
  | loadMultiple block | storeMultiple block =>
      rw [propagate, agree block.base (List.mem_singleton.2 rfl)]
      rfl
  | _ => rfl

namespace Instruction

variable {config : AnalysisConfig} {instr : Instruction} {first second : Context}

/-- An executing instruction looks at the consulted registers only. -/
theorem execute_congr
    (agree : ∀ reg ∈ instr.consultedRegs config, first.value reg = second.value reg)
    (shadow : Shadow) :
    instr.execute config first shadow = instr.execute config second shadow := by
  have addresses (reg : Reg)
      (member : reg ∈ (instr.operation.addressRegs?.map Prod.fst).getD []) :
      first.value reg = second.value reg :=
    agree reg (List.mem_append_left _ member)
  have framed : instr.clearNewFrame config first shadow =
      instr.clearNewFrame config second shadow := by
    rw [clearNewFrame, clearNewFrame]
    cases clears : config.stackAutoClear with
    | false => rfl
    | true =>
        cases allocates : instr.allocatedFrame? with
        | none => rfl
        | some size =>
            have stack : first.value Reg.sp = second.value Reg.sp := by
              apply agree
              simp [consultedRegs, clears, allocates]
            rw [stack]
  have ruled : instr.propagate config first = instr.propagate config second := by
    funext shadow
    rw [propagate, propagate, Operation.propagate_congr addresses]
  rw [execute, execute, framed, ruled]

end Instruction

/-! ## Threads and replays that look the same -/

namespace Thread

/-- A thread up to the invisible bits of the flags that it remembers. -/
def visible (thread : Thread) : Thread := { thread with observed := thread.observed.visible }

@[simp] theorem visible_start (id : UInt32) : (start id).visible = start id := by
  have clear : Flags.clear.visible = Flags.clear := by decide
  rw [start, visible, clear]

/-- A thread that looks the same is the same up to remembered flags. -/
theorem eq_of_visible
    {first second : Thread}
    (same : first.visible = second.visible) :
    ∃ flags, flags.visible = first.observed.visible ∧
      second = { first with observed := flags } := by
  obtain ⟨id, registers, observed, previous, pendingCall, unhandled⟩ := second
  obtain ⟨rfl, rfl, flags, rfl, rfl, rfl⟩ := Thread.mk.inj same
  exact ⟨observed, flags.symm, rfl⟩

/-- Threads that look the same arrive looking the same, if recorded flags that are
looked at do. -/
theorem visible_arrive
    {first second : Thread}
    {firstInstr secondInstr : Instruction}
    {firstContext secondContext : Context}
    (same : first.visible = second.visible)
    (opcode : firstInstr.opcode = secondInstr.opcode)
    (flags : flagsOutdated first.previous = true ->
      firstContext.flags.visible = secondContext.flags.visible) :
    (first.arrive firstInstr firstContext).visible =
      (second.arrive secondInstr secondContext).visible := by
  obtain ⟨observed, sameFlags, rfl⟩ := eq_of_visible same
  simp only [visible, arrive, opcode]
  congr 1
  unfold observeFlags
  split
  · rename_i outdated
    exact flags outdated
  · exact sameFlags.symm

/-- Threads that look the same execute the same, if the condition is the same. -/
theorem executes_congr
    {first second : Thread}
    {firstInstr secondInstr : Instruction}
    (same : first.visible = second.visible)
    (predicate : firstInstr.predicate = secondInstr.predicate) :
    first.executes firstInstr = second.executes secondInstr := by
  obtain ⟨observed, sameFlags, rfl⟩ := eq_of_visible same
  rw [executes, executes, Instruction.condition?, predicate, ← Instruction.condition?]
  cases secondInstr.condition? with
  | none => rfl
  | some cond => exact Cond.holds_congr sameFlags.symm cond

end Thread

namespace ThreadTable

/-- The threads up to the invisible bits of the flags that they remember. -/
def visible (table : ThreadTable) : ThreadTable := ⟨table.threads.map Thread.visible⟩

theorem find?_visible (table : ThreadTable) (id : UInt32) :
    table.visible.find? id = (table.find? id).map Thread.visible := by
  rw [find?, visible, List.find?_map]
  rfl

theorem visible_insert (table : ThreadTable) (thread : Thread) :
    (table.insert thread).visible = table.visible.insert thread.visible := by
  have found : (table.visible.find? thread.visible.id).isSome =
      (table.find? thread.id).isSome := by
    rw [find?_visible, Option.isSome_map]
    rfl
  rw [insert, insert, found]
  split
  · simp only [visible, List.map_map]
    congr 1
    apply List.map_congr_left
    intro other _
    exact apply_ite Thread.visible _ _ _
  · simp [visible]

theorem visible_erase (table : ThreadTable) (id : UInt32) :
    (table.erase id).visible = table.visible.erase id := by
  rw [erase, visible, visible, erase, List.filter_map]
  rfl

end ThreadTable

namespace Watched

variable {Notes : Type}

/-- A thread in view up to the invisible bits of the flags that it remembers. -/
def visible (watched : Watched Notes) : Watched Notes :=
  { watched with thread := watched.thread.visible }

end Watched

namespace Replay

/-- A replay up to the invisible bits of the flags that its threads remember. -/
def visible (replay : Replay) : Replay := { replay with threads := replay.threads.visible }

theorem visible_begin (replay : Replay) (id : UInt32) :
    (replay.begin id).visible = replay.visible.begin id := by
  have found : (replay.visible.threads.find? id).isSome =
      (replay.threads.find? id).isSome := by
    rw [visible, ThreadTable.find?_visible, Option.isSome_map]
  rw [begin, begin, found]
  split
  · rfl
  · rw [visible, ThreadTable.visible_insert, Thread.visible_start]
    rfl

theorem visible_view (replay : Replay) (id : UInt32) :
    (replay.view id).visible = replay.visible.view id := by
  rw [view_eq, view_eq, visible, ThreadTable.find?_visible]
  cases replay.threads.find? id with
  | none =>
      rw [Watched.visible, Option.getD_none, Thread.visible_start]
      rfl
  | some thread => rfl

theorem visible_putBack (replay : Replay) (focus : Focus) :
    (replay.putBack focus).visible = replay.visible.putBack focus.visible := by
  rw [putBack, visible, ThreadTable.visible_insert]
  rfl

theorem visible_endThread (replay : Replay) (id : UInt32) :
    (replay.endThread id).visible = replay.visible.endThread id := by
  rw [endThread, endThread, visible.eq_def replay, ThreadTable.find?_visible]
  cases replay.threads.find? id with
  | none => rfl
  | some thread =>
      simp only [Option.map_some, visible, ThreadTable.visible_erase]
      rfl

variable {first second : Replay}

/-- Replays that look the same count the same. -/
theorem statistics_congr (same : first.visible = second.visible) :
    first.statistics = second.statistics := by
  have taken (replay : Replay) : replay.visible.statistics = replay.statistics := List.foldl_map
  rw [← taken, same, taken]

/-- Replays that look the same have the same taint in every register. -/
theorem taint?_congr (same : first.visible = second.visible) (id : UInt32) (reg : Reg) :
    first.taint? id reg = second.taint? id reg := by
  have kept (replay : Replay) : replay.visible.taint? id reg = replay.taint? id reg := by
    rw [taint?, visible, ThreadTable.find?_visible, Option.map_map, taint?]
    rfl
  rw [← kept, same, kept]

/-- Actions that look the same on what is in view look the same on the replay. -/
theorem visible_within
    {id : UInt32}
    {firstAction secondAction : Focus -> Reached Fault Focus Value}
    (same : first.visible = second.visible)
    (acted : (firstAction (first.view id)).mapState Watched.visible =
      (secondAction (second.view id)).mapState Watched.visible)
    (counts : Statistics -> Value -> Statistics) :
    (first.within id firstAction counts).mapState visible =
      (second.within id secondAction counts).mapState visible := by
  have shown (replay : Replay) (action : Focus -> Reached Fault Focus Value) :
      (replay.within id action counts).mapState visible =
        (((action (replay.view id)).mapState Watched.visible).mapState
          (replay.visible.begin id).putBack).andThen
            fun reached value => .done (reached.count counts value) () := by
    rw [within_eq, ← visible_begin]
    generalize action (replay.view id) = reached
    obtain ⟨focus, result⟩ := reached
    cases result with
    | ok value =>
        show Reached.done (((replay.begin id).putBack focus).count counts value).visible () =
          .done (((replay.begin id).visible.putBack focus.visible).count counts value) ()
        rw [← visible_putBack]
        rfl
    | error fault =>
        show Reached.stopped ((replay.begin id).putBack focus).visible fault =
          .stopped ((replay.begin id).visible.putBack focus.visible) fault
        rw [visible_putBack]
  rw [shown, shown, acted, same]

end Replay
end ShadowTaint
