import Mathlib.Logic.Relation
import ShadowTaint.Proofs.Order.Effects
import ShadowTaint.Proofs.Trace.Tables

/-!
# Independent events commute

Two events of different threads are independent if no address that one of them writes is
read or written by the other, and neither is stopped. Then each has the same effect
before and behind the other, and the effects may be exchanged: only the order of the
findings tells which event came first. So traces that differ by exchanges of independent
neighbours lead to the same state.
-/

namespace ShadowTaint

/-! ## Replays up to order -/

namespace Replay

/-- Two replays in the same state. The order in which threads began is not part of it,
and the findings are compared on their own. -/
structure SameState (first second : Replay) : Prop where
  memory : first.memory = second.memory
  thread : ∀ id, first.threads.find? id = second.threads.find? id
  counted : first.counted = second.counted
  statistics : first.statistics = second.statistics

/-- Two replays that differ in the order of threads and findings at most. -/
structure SameUpToOrder (first second : Replay) : Prop where
  memory : first.memory = second.memory
  threads : first.threads.SameUpToOrder second.threads
  counted : first.counted = second.counted
  findings : first.findings.SameUpToOrder second.findings

namespace SameUpToOrder

variable {first second third : Replay}

theorem refl (replay : Replay) : replay.SameUpToOrder replay :=
  ⟨rfl, .refl _, rfl, .refl _⟩

theorem trans
    (one : first.SameUpToOrder second)
    (other : second.SameUpToOrder third) :
    first.SameUpToOrder third :=
  ⟨one.memory.trans other.memory, one.threads.trans other.threads,
    one.counted.trans other.counted, one.findings.trans other.findings⟩

/-- The opcodes of live threads are taken in whatever the order of the threads. -/
theorem sameState (same : first.SameUpToOrder second) : first.SameState second where
  memory := same.memory
  thread := same.threads.find?_eq
  counted := same.counted
  statistics := by
    rw [statistics, statistics, same.counted]
    exact Statistics.foldl_takeIn_of_perm same.threads.perm _

theorem countEvent (same : first.SameUpToOrder second) :
    first.countEvent.SameUpToOrder second.countEvent := by
  rw [countEvent_eq, countEvent_eq, same.counted]
  exact ⟨same.memory, same.threads, rfl, same.findings⟩

end SameUpToOrder

/-- Two runs end alike: both are stopped by the same fault, or both run to the end and
reach replays that are the same up to order. -/
structure EndAlike (first second : Reached Fault Replay Unit) : Prop where
  result : first.result = second.result
  state : first.result = .ok () -> first.state.SameUpToOrder second.state

namespace EndAlike

variable {first second third : Reached Fault Replay Unit}

theorem refl (run : Reached Fault Replay Unit) : EndAlike run run :=
  ⟨rfl, fun _ => .refl _⟩

theorem trans (one : EndAlike first second) (other : EndAlike second third) :
    EndAlike first third :=
  ⟨one.result.trans other.result,
    fun ran => (one.state ran).trans (other.state (one.result ▸ ran))⟩

/-- Runs that end alike are continued alike. -/
theorem andThen
    {next otherNext : Replay -> Unit -> Reached Fault Replay Unit}
    (alike : EndAlike first second)
    (continued : ∀ one other, first = .done one () -> second = .done other () ->
      one.SameUpToOrder other -> EndAlike (next one ()) (otherNext other ())) :
    EndAlike (first.andThen next) (second.andThen otherNext) := by
  obtain ⟨one, result⟩ := first
  obtain ⟨other, otherResult⟩ := second
  cases alike.result
  cases result with
  | ok => exact continued one other rfl rfl (alike.state rfl)
  | error fault =>
      refine ⟨rfl, fun ran => ?_⟩
      cases ran

end EndAlike

theorem changeMemory_alike
    {first second : Replay}
    (same : first.SameUpToOrder second)
    (change : Memory -> Except Fault Memory) :
    EndAlike (first.changeMemory change) (second.changeMemory change) := by
  rw [changeMemory, changeMemory, same.memory]
  cases change second.memory with
  | ok memory => exact ⟨rfl, fun _ => ⟨rfl, same.threads, same.counted, same.findings⟩⟩
  | error fault =>
      refine ⟨rfl, fun ran => ?_⟩
      cases ran

end Replay

namespace Effect

variable {effect first second : Effect} {before other : Replay}
  {reached otherReached : Reached Fault Replay Unit}

theorem leave_sameUpToOrder
    {table otherTable : ThreadTable}
    (same : table.SameUpToOrder otherTable)
    (effect : Effect) :
    (effect.leave table).SameUpToOrder (effect.leave otherTable) := by
  rw [leave, leave]
  cases effect.thread with
  | none => exact same.erase effect.id
  | some thread => exact same.insert thread

/-- Effects on different threads may be exchanged. -/
theorem leave_comm (different : first.id ≠ second.id) (table : ThreadTable) :
    (second.leave (first.leave table)).SameUpToOrder (first.leave (second.leave table)) := by
  simp only [leave]
  cases left : first.thread with
  | none =>
      cases right : second.thread with
      | none =>
          dsimp only
          rw [ThreadTable.erase_comm]
          exact .refl _
      | some other =>
          have apart : other.id ≠ first.id := second.named other right ▸ different.symm
          dsimp only
          rw [ThreadTable.erase_insert_comm table apart]
          exact .refl _
  | some thread =>
      have named := first.named thread left
      cases right : second.thread with
      | none =>
          dsimp only
          rw [ThreadTable.erase_insert_comm table (named ▸ different)]
          exact .refl _
      | some other =>
          exact table.insert_comm (named ▸ second.named other right ▸ different)

/-- An effect on two replays that are the same up to order leaves them so. -/
theorem Done.sameUpToOrder
    (done : effect.Done before reached)
    (otherDone : effect.Done other otherReached)
    (same : before.SameUpToOrder other) :
    reached.state.SameUpToOrder otherReached.state where
  memory := by
    have records := otherDone.memory
    rw [← same.memory] at records
    exact done.memory.eq records (fun _ => rfl) (fun _ _ => .rfl)
  threads := by
    rw [done.threads, otherDone.threads]
    exact leave_sameUpToOrder same.threads effect
  counted := by rw [done.counted, otherDone.counted, same.counted]
  findings := by
    rw [done.findings, otherDone.findings]
    exact same.findings.append _

/-- Two effects on different threads, without a common address, may be exchanged. -/
theorem Done.exchange
    {middle otherMiddle after otherAfter : Reached Fault Replay Unit}
    (different : first.id ≠ second.id)
    (apart : ∀ address, first.journal.Writes address -> ¬second.journal.Writes address)
    (firstDone : first.Done before middle)
    (secondBehind : second.Done middle.state after)
    (secondDone : second.Done before otherMiddle)
    (firstBehind : first.Done otherMiddle.state otherAfter) :
    after.state.SameUpToOrder otherAfter.state where
  memory := by
    apply (firstDone.memory.trans secondBehind.memory).eq
      (secondDone.memory.trans firstBehind.memory)
    · exact fun address => (Journal.lookup_append_comm apart address).symm
    · intro base number
      rw [Journal.taints_append_iff, Journal.taints_append_iff, or_comm]
  threads := by
    rw [secondBehind.threads, firstDone.threads, firstBehind.threads, secondDone.threads]
    exact leave_comm different before.threads
  counted := by
    rw [secondBehind.counted, firstDone.counted, firstBehind.counted, secondDone.counted]
    exact Statistics.add_right_comm ..
  findings := by
    rw [secondBehind.findings, firstDone.findings, firstBehind.findings, secondDone.findings]
    exact Findings.SameUpToOrder.append_right_comm ..

end Effect

namespace Analysis

variable {analysis : Analysis} {replay first second : Replay} {event : Event}

/-- An event that is applied to replays that are the same up to order ends alike. -/
theorem apply_alike (same : first.SameUpToOrder second) (event : Event) :
    Replay.EndAlike (analysis.apply first event) (analysis.apply second event) := by
  cases named : event.thread? with
  | some id =>
      have executes : first.executes event = second.executes event :=
        Replay.executes_congr fun id _ => same.threads.find?_eq id
      have results : (analysis.apply first event).result =
          (analysis.apply second event).result :=
        result_apply_congr (congrArg Memory.extent same.memory) executes
      have agree : (event.footprint analysis.config (first.executes event)).Agree
          first.memory.labels second.memory.labels := by
        intro address _
        rw [same.memory]
      refine ⟨results, fun ran => ?_⟩
      obtain ⟨effect, -, firstDone, secondDone, -⟩ :=
        apply_sameEffect named (same.threads.find?_eq id) agree ran (results ▸ ran)
      exact firstDone.sameUpToOrder secondDone same
  | none =>
      cases event with
      | taint address length label? =>
          rw [apply, apply]
          exact Replay.changeMemory_alike same.countEvent _
      | untaint address length =>
          rw [apply, apply]
          exact Replay.changeMemory_alike same.countEvent _
      | _ => cases named

/-- An event that ran is followed by the others. -/
theorem applyAll_cons_of_ran
    (ran : (analysis.apply replay event).result = .ok ())
    (rest : List Event) :
    analysis.applyAll replay (event :: rest) =
      analysis.applyAll (analysis.apply replay event).state rest := by
  rw [applyAll, Reached.eq_done ran]
  rfl

theorem applyAll_alike (same : first.SameUpToOrder second) (events : List Event) :
    Replay.EndAlike (analysis.applyAll first events) (analysis.applyAll second events) := by
  induction events generalizing first second with
  | nil => exact ⟨rfl, fun _ => same⟩
  | cons event rest inductionHypothesis =>
      apply (apply_alike same event).andThen
      intro one other _ _ sameAfter
      exact inductionHypothesis sameAfter

end Analysis

/-! ## Independence -/

/-- No address that one footprint writes is read or written by the other. -/
def Footprint.Apart (first second : Footprint) : Prop :=
  (∀ address, first.Writes address -> ¬second.Reads address ∧ ¬second.Writes address) ∧
    ∀ address, second.Writes address -> ¬first.Reads address ∧ ¬first.Writes address

namespace Analysis

/-- Two events of different threads are independent, and neither is stopped. -/
structure Independent
    (analysis : Analysis)
    (replay : Replay)
    (first second : Event) : Prop where
  threads : ∃ one other, first.thread? = some one ∧ second.thread? = some other ∧ one ≠ other
  apart : (first.footprint analysis.config (replay.executes first)).Apart
    (second.footprint analysis.config (replay.executes second))
  firstRan : (analysis.apply replay first).result = .ok ()
  secondRan : (analysis.apply replay second).result = .ok ()

namespace Independent

variable {analysis : Analysis} {replay : Replay} {first second : Event}

theorem symm (independent : analysis.Independent replay first second) :
    analysis.Independent replay second first where
  threads := by
    obtain ⟨one, other, firstNamed, secondNamed, different⟩ := independent.threads
    exact ⟨other, one, secondNamed, firstNamed, different.symm⟩
  apart := ⟨independent.apart.2, independent.apart.1⟩
  firstRan := independent.secondRan
  secondRan := independent.firstRan

/-- Behind an independent event, an event runs as it does before, with the same effect. -/
theorem sameEffect
    {id : UInt32}
    (independent : analysis.Independent replay first second)
    (named : first.thread? = some id) :
    SameEffect (first.footprint analysis.config (replay.executes first)) id
      (fun replay => analysis.apply replay first)
      replay (analysis.apply replay second).state := by
  obtain ⟨_, other, firstNamed, secondNamed, different⟩ := independent.threads
  cases named.symm.trans firstNamed
  have keeps := apply_keeps secondNamed independent.secondRan
  have sameThread := keeps.thread id different
  have executes : replay.executes first =
      (analysis.apply replay second).state.executes first := by
    apply Replay.executes_congr
    intro id named
    cases named.symm.trans firstNamed
    exact sameThread
  apply apply_sameEffect firstNamed sameThread
  case firstRan => exact independent.firstRan
  case secondRan => rw [← result_apply_congr keeps.extent executes, independent.firstRan]
  case agree =>
    intro address read
    exact keeps.label address fun written => (independent.apart.2 address written).1 read

/-- Either order of independent events has both effects. -/
theorem exchange (independent : analysis.Independent replay first second) :
    ∃ one other : Effect,
      one.Done replay (analysis.apply replay first) ∧
      other.Done replay (analysis.apply replay second) ∧
      other.Done (analysis.apply replay first).state
        (analysis.apply (analysis.apply replay first).state second) ∧
      one.Done (analysis.apply replay second).state
        (analysis.apply (analysis.apply replay second).state first) ∧
      (analysis.apply (analysis.apply replay first).state second).state.SameUpToOrder
        (analysis.apply (analysis.apply replay second).state first).state := by
  obtain ⟨_, _, firstNamed, secondNamed, different⟩ := independent.threads
  obtain ⟨one, rfl, firstDone, firstBehind, firstWrites⟩ := independent.sameEffect firstNamed
  obtain ⟨other, rfl, secondDone, secondBehind, secondWrites⟩ :=
    independent.symm.sameEffect secondNamed
  refine ⟨one, other, firstDone, secondDone, secondBehind, firstBehind,
    firstDone.exchange different ?_ secondBehind secondDone firstBehind⟩
  intro address written writtenToo
  exact (independent.apart.1 address (firstWrites address written)).2
    (secondWrites address writtenToo)

/-- Applying independent events in either order ends alike, whatever follows. -/
theorem applyAll_alike
    (independent : analysis.Independent replay first second)
    (rest : List Event) :
    Replay.EndAlike (analysis.applyAll replay (first :: second :: rest))
      (analysis.applyAll replay (second :: first :: rest)) := by
  obtain ⟨one, other, firstDone, secondDone, secondBehind, firstBehind, same⟩ :=
    independent.exchange
  rw [applyAll_cons_of_ran firstDone.result, applyAll_cons_of_ran secondBehind.result,
    applyAll_cons_of_ran secondDone.result, applyAll_cons_of_ran firstBehind.result]
  exact Analysis.applyAll_alike same rest

end Independent

/-- Two traces that differ by an exchange of independent neighbours. -/
def Exchange (analysis : Analysis) (replay : Replay) (one other : List Event) : Prop :=
  ∃ before first second after middle,
    analysis.applyAll replay before = .done middle () ∧
    analysis.Independent middle first second ∧
    one = before ++ first :: second :: after ∧ other = before ++ second :: first :: after

theorem Exchange.applyAll_alike
    {analysis : Analysis}
    {replay : Replay}
    {one other : List Event}
    (exchange : analysis.Exchange replay one other) :
    Replay.EndAlike (analysis.applyAll replay one) (analysis.applyAll replay other) := by
  obtain ⟨before, first, second, after, middle, ran, independent, rfl, rfl⟩ := exchange
  rw [applyAll_append, applyAll_append, ran]
  exact independent.applyAll_alike after

/-- Independent events of different threads commute: in either order they lead to the
same state, with their findings exchanged. So traces that differ by any number of such
exchanges lead to the same state, and to the same findings up to their order. -/
theorem independent_events_commute (analysis : Analysis) (replay : Replay) :
    (∀ first second, analysis.Independent replay first second ->
      ∃ one other firstFound secondFound,
        analysis.applyAll replay [first, second] = .done one () ∧
        analysis.applyAll replay [second, first] = .done other () ∧
        one.SameState other ∧
        (analysis.apply replay first).state.findings = replay.findings.append firstFound ∧
        (analysis.apply replay second).state.findings = replay.findings.append secondFound ∧
        one.findings = (replay.findings.append firstFound).append secondFound ∧
        other.findings = (replay.findings.append secondFound).append firstFound) ∧
    ∀ one other, Relation.ReflTransGen (analysis.Exchange replay) one other ->
      (analysis.applyAll replay one).result = (analysis.applyAll replay other).result ∧
      ((analysis.applyAll replay one).result = .ok () ->
        (analysis.applyAll replay one).state.SameState (analysis.applyAll replay other).state ∧
        (analysis.applyAll replay one).state.findings.SameUpToOrder
          (analysis.applyAll replay other).state.findings) := by
  constructor
  · intro first second independent
    obtain ⟨one, other, firstDone, secondDone, secondBehind, firstBehind, same⟩ :=
      independent.exchange
    refine ⟨_, _, one.findings, other.findings, ?firstOrder, ?secondOrder, same.sameState,
      firstDone.findings, secondDone.findings, ?_, ?_⟩
    case firstOrder =>
      rw [applyAll_cons_of_ran firstDone.result, applyAll_cons_of_ran secondBehind.result]
      rfl
    case secondOrder =>
      rw [applyAll_cons_of_ran secondDone.result, applyAll_cons_of_ran firstBehind.result]
      rfl
    · rw [secondBehind.findings, firstDone.findings]
    · rw [firstBehind.findings, secondDone.findings]
  · intro one other exchanges
    have alike : Replay.EndAlike (analysis.applyAll replay one)
        (analysis.applyAll replay other) := by
      induction exchanges with
      | refl => exact .refl _
      | tail _ last inductionHypothesis => exact inductionHypothesis.trans last.applyAll_alike
    exact ⟨alike.result, fun ran => ⟨(alike.state ran).sameState, (alike.state ran).findings⟩⟩

/-- A thread asks for taint of one word, and another thread stores the word behind it. -/
theorem independent_events_commute_words :
    let request : Event := .callEntry 1 4 [0xFFFFEEEE, 0, 4]
    let store : Event := .step 2
      ⟨0, .str, none, .store .word ⟨0⟩ ⟨⟨1⟩, none, 0, false, 4, .offset⟩ none⟩ Context.zero
    let analysis : Analysis := ⟨AnalysisConfig.standard, [], 1⟩
    ∃ memory, Memory.create 0 16 = .ok memory ∧
      analysis.Independent (Replay.start memory) request store ∧
      ∃ one other,
        analysis.applyAll (Replay.start memory) [request, store] = .done one () ∧
        analysis.applyAll (Replay.start memory) [store, request] = .done other () ∧
        one.SameState other ∧ one.findings.SameUpToOrder other.findings := by
  intro request store analysis
  have commute (memory : Memory)
      (independent : analysis.Independent (Replay.start memory) request store) :
      ∃ one other,
        analysis.applyAll (Replay.start memory) [request, store] = .done one () ∧
        analysis.applyAll (Replay.start memory) [store, request] = .done other () ∧
        one.SameState other ∧ one.findings.SameUpToOrder other.findings := by
    obtain ⟨pair, traces⟩ := independent_events_commute analysis (Replay.start memory)
    obtain ⟨one, other, _, _, requested, stored, same, -⟩ := pair request store independent
    have exchange : analysis.Exchange (Replay.start memory) [request, store] [store, request] :=
      ⟨[], request, store, [], Replay.start memory, rfl, independent, rfl, rfl⟩
    have ended := traces _ _ (.single exchange)
    rw [requested, stored] at ended
    exact ⟨one, other, requested, stored, same, (ended.2 rfl).2⟩
  have independent (memory : Memory) (mapped : memory.extent = ⟨0, 16⟩) :
      analysis.Independent (Replay.start memory) request store := by
    have extent : (Replay.start memory).memory.extent = ⟨0, 16⟩ := mapped
    have requestWrites : request.footprint analysis.config
        ((Replay.start memory).executes request) = ⟨[], [⟨0, 4⟩]⟩ := rfl
    have storeWrites : store.footprint analysis.config
        ((Replay.start memory).executes store) = ⟨[], [⟨4, 4⟩]⟩ := rfl
    refine ⟨⟨1, 2, rfl, rfl, by decide⟩, ?apart, ?requested, ?stored⟩
    case apart =>
      rw [requestWrites, storeWrites]
      simp only [Footprint.Apart, Footprint.Reads, Footprint.Writes, Span.Contains,
        List.mem_singleton, exists_eq_left, List.not_mem_nil, false_and, exists_false,
        not_false_eq_true, true_and]
      refine ⟨fun address inFirst inSecond => ?_, fun address inSecond inFirst => ?_⟩
      · exact absurd (Nat.lt_of_lt_of_le inFirst.2 inSecond.1) (Nat.lt_irrefl _)
      · exact absurd (Nat.lt_of_lt_of_le inFirst.2 inSecond.1) (Nat.lt_irrefl _)
    case requested =>
      rw [(analysis.apply_meets _ request).result_eq, extent]
      rfl
    case stored =>
      rw [(analysis.apply_meets _ store).result_eq, extent]
      rfl
  exact ⟨_, rfl, independent _ rfl, commute _ (independent _ rfl)⟩

end Analysis
end ShadowTaint
