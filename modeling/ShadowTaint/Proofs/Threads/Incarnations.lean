import Mathlib.Data.List.Induction
import ShadowTaint.Encoding.Report
import ShadowTaint.Proofs.Threads.Names

/-!
# Incarnations of threads

The events of one identifier up to an exit are those of one incarnation, and the events
behind the exit are those of the next. All that a replay keeps for an incarnation begins
with its first event and ends with its exit. So a trace that gives every incarnation an
identifier of its own is replayed like the trace in which identifiers begin again.
-/

namespace ShadowTaint

/-- One life of an identifier. -/
structure Incarnation where
  id : UInt32
  /-- How often the identifier has exited before. -/
  exits : Nat
  deriving DecidableEq

namespace Incarnation

/-- The incarnation to which the next event of an identifier belongs. -/
def current (past : List Event) (id : UInt32) : Incarnation :=
  ⟨id, past.count (.threadExit id)⟩

/-- An event that is not its exit ends no incarnation. -/
theorem current_concat
    {event : Event}
    {id : UInt32}
    (stays : event ≠ .threadExit id)
    (past : List Event) :
    current (past ++ [event]) id = current past id := by
  rw [current, List.count_append, List.count_singleton, if_neg (by simpa using stays)]
  rfl

/-- The events of a trace, each with those before it. -/
def withPasts (events : List Event) : List (List Event × Event) :=
  events.mapIdx fun position event => (events.take position, event)

/-- The incarnations to which the events of a trace belong. -/
def all (events : List Event) : List Incarnation :=
  (withPasts events).filterMap fun place => place.2.thread?.map (current place.1)

/-- The names of the incarnations that come next. -/
def names (naming : Incarnation -> UInt32) (past : List Event) (id : UInt32) : UInt32 :=
  naming (current past id)

/-- A trace in which the events of each incarnation, its exit among them, have its name for
their identifier. -/
def renamed (naming : Incarnation -> UInt32) (events : List Event) : List Event :=
  (withPasts events).map fun place => place.2.rename (names naming place.1)

/-- Incarnations of a trace have different names. -/
def Distinguishes (naming : Incarnation -> UInt32) (events : List Event) : Prop :=
  ∀ one ∈ all events, ∀ other ∈ all events, naming one = naming other -> one = other

instance (naming : Incarnation -> UInt32) (events : List Event) :
    Decidable (Distinguishes naming events) :=
  inferInstanceAs (Decidable (∀ one ∈ all events, _))

variable {naming : Incarnation -> UInt32} {past events : List Event} {event : Event}

/-! ## Traces event by event -/

theorem withPasts_take (events : List Event) (count : Nat) :
    withPasts (events.take count) = (withPasts events).take count := by
  apply List.ext_getElem
  · simp [withPasts]
  · intro position inside _
    have before : position ≤ count := by
      simp [withPasts] at inside
      omega
    simp [withPasts, List.take_take, Nat.min_eq_left before]

theorem withPasts_concat (past : List Event) (event : Event) :
    withPasts (past ++ [event]) = withPasts past ++ [(past, event)] := by
  have earlier : past.mapIdx (fun position met =>
      ((past ++ [event]).take position, met)) = withPasts past := by
    apply List.ext_getElem
    · simp [withPasts]
    · intro position inside _
      rw [List.length_mapIdx] at inside
      simp [withPasts, List.take_append_of_le_length (Nat.le_of_lt inside)]
  rw [withPasts, List.mapIdx_concat, earlier, List.take_left]

theorem all_concat (past : List Event) (event : Event) :
    all (past ++ [event]) = all past ++ (event.thread?.map (current past)).toList := by
  rw [all, withPasts_concat, List.filterMap_append, all]
  cases named : event.thread? with
  | none => simp [named]
  | some id => simp [named]

theorem renamed_take (naming : Incarnation -> UInt32) (events : List Event) (count : Nat) :
    renamed naming (events.take count) = (renamed naming events).take count := by
  rw [renamed, withPasts_take, List.map_take, renamed]

theorem renamed_concat (naming : Incarnation -> UInt32) (past : List Event) (event : Event) :
    renamed naming (past ++ [event]) =
      renamed naming past ++ [event.rename (names naming past)] := by
  rw [renamed, withPasts_concat, List.map_append, renamed]
  rfl

theorem getElem?_renamed
    (naming : Incarnation -> UInt32)
    (events : List Event)
    (position : Nat) :
    (renamed naming events)[position]? =
      events[position]?.map (Event.rename (names naming (events.take position))) := by
  simp only [renamed, withPasts, List.getElem?_map, List.getElem?_mapIdx, Option.map_map]
  rfl

/-- What distinguishes the incarnations of a trace does so from its beginning on. -/
theorem Distinguishes.take (distinguishes : Distinguishes naming events) (count : Nat) :
    Distinguishes naming (events.take count) := by
  have earlier : all (events.take count) ⊆ all events := by
    rw [all, withPasts_take]
    exact List.filterMap_subset _ (List.take_subset _ _)
  intro one inOne other inOther
  exact distinguishes one (earlier inOne) other (earlier inOther)

theorem mem_all_concat
    {incarnation : Incarnation}
    (earlier : incarnation ∈ all past) :
    incarnation ∈ all (past ++ [event]) := by
  rw [all_concat]
  exact List.mem_append_left _ earlier

/-- The incarnation of the last event is one of the trace. -/
theorem current_mem_all
    {id : UInt32}
    (named : event.thread? = some id) :
    current past id ∈ all (past ++ [event]) := by
  rw [all_concat, named]
  exact List.mem_append_right _ (List.mem_singleton_self _)

end Incarnation

/-! ## Live threads -/

open Incarnation

/-- Each live thread belongs to an incarnation of the past that has not ended. -/
def Replay.Incarnate (replay : Replay) (past : List Event) : Prop :=
  ∀ thread ∈ replay.threads.threads, current past thread.id ∈ all past

namespace Analysis

variable {analysis : Analysis} {replay : Replay} {memory : Memory}
  {naming : Incarnation -> UInt32} {past events : List Event} {event : Event}

/-- A thread is live until the exit of its incarnation. -/
theorem apply_incarnate (incarnate : replay.Incarnate past) (event : Event) :
    (analysis.apply replay event).state.Incarnate (past ++ [event]) := by
  intro thread member
  obtain ⟨stays, named | earlier⟩ := mem_threads_apply member
  · rw [current_concat stays]
    exact current_mem_all named
  · rw [current_concat stays]
    exact mem_all_concat (incarnate thread earlier)

/-- No live thread but its own gets the name of the incarnation of the next event. -/
theorem separates_names
    (incarnate : replay.Incarnate past)
    (distinguishes : Distinguishes naming (past ++ [event]))
    {id : UInt32}
    (named : event.thread? = some id) :
    replay.threads.Separates (names naming past) id := by
  intro thread member sameName
  have same := distinguishes _ (mem_all_concat (incarnate thread member)) _
    (current_mem_all named) sameName
  exact congrArg Incarnation.id same

/-- The exit of a thread changes the name of no thread that stays. -/
theorem rename_names_concat (naming : Incarnation -> UInt32) (past : List Event) :
    (analysis.apply replay event).state.rename (names naming (past ++ [event])) =
      (analysis.apply replay event).state.rename (names naming past) := by
  have sameTable :
      (analysis.apply replay event).state.threads.rename (names naming (past ++ [event])) =
        (analysis.apply replay event).state.threads.rename (names naming past) := by
    apply ThreadTable.rename_congr
    intro thread member
    exact congrArg naming (current_concat (mem_threads_apply member).1 past)
  rw [Replay.rename, Replay.rename, sameTable]

/-- A trace with names for incarnations is replayed like the trace itself, with other names
for its threads. While no event stops the replay, these are the names of the incarnations
that are live. -/
theorem applyAll_renamed
    (analysis : Analysis)
    (memory : Memory)
    (distinguishes : Distinguishes naming events) :
    ∃ given, analysis.applyAll (Replay.start memory) (renamed naming events) =
        (analysis.applyAll (Replay.start memory) events).mapState (Replay.rename given) ∧
      ((analysis.applyAll (Replay.start memory) events).result = .ok () ->
        given = names naming events ∧
          (analysis.applyAll (Replay.start memory) events).state.Incarnate events) := by
  induction events using List.reverseRecOn with
  | nil =>
      have incarnate : (Replay.start memory).Incarnate [] := List.forall_mem_nil _
      exact ⟨names naming [], rfl, fun _ => ⟨rfl, incarnate⟩⟩
  | append_singleton past event inductionHypothesis =>
      have earlier := distinguishes.take past.length
      rw [List.take_left] at earlier
      obtain ⟨given, replayed, live⟩ := inductionHypothesis earlier
      rw [renamed_concat, applyAll_concat, applyAll_concat, replayed]
      generalize analysis.applyAll (Replay.start memory) past = ran at live
      obtain ⟨replay, result⟩ := ran
      cases result with
      | error fault => exact ⟨given, rfl, nofun⟩
      | ok =>
          obtain ⟨rfl, incarnate⟩ := live rfl
          refine ⟨names naming (past ++ [event]), ?replayed, fun _ => ⟨rfl, ?incarnate⟩⟩
          case replayed =>
            have separates (id : UInt32) (named : event.thread? = some id) :=
              separates_names incarnate distinguishes named
            refine (apply_rename separates).trans ?_
            rw [Reached.mapState, Reached.andThen, Reached.mapState, rename_names_concat]
          case incarnate => exact apply_incarnate incarnate event

/-- Identifiers of threads are names, and an exit forgets all of a thread. A trace whose
incarnations get identifiers of their own is replayed like the trace in which identifiers
begin again: up to every event with the same memory, the same report and the same fault or
none, and every event with the same outcome. As long as there is no fault, the live threads
are the same under their new names. -/
theorem applyAll_eq_of_renamed
    (analysis : Analysis)
    (memory : Memory)
    (events : List Event)
    (naming : Incarnation -> UInt32)
    (distinguishes : Distinguishes naming events)
    (count : Nat) :
    let run := analysis.applyAll (Replay.start memory) (events.take count)
    let other := analysis.applyAll (Replay.start memory) ((renamed naming events).take count)
    other.result = run.result ∧
    other.state.memory = run.state.memory ∧
    other.state.report = run.state.report ∧
    other.state.findings = run.state.findings ∧
    (run.result = .ok () ->
      other.state = run.state.rename (names naming (events.take count)) ∧
      ∀ event renamedEvent,
        events[count]? = some event -> (renamed naming events)[count]? = some renamedEvent ->
        analysis.outcome? other.state renamedEvent = analysis.outcome? run.state event ∧
        analysis.disposition? other.state renamedEvent =
          analysis.disposition? run.state event) := by
  intro run other
  obtain ⟨given, replayed, live⟩ :=
    applyAll_renamed analysis memory (distinguishes.take count)
  rw [renamed_take] at replayed
  have same : other = run.mapState (Replay.rename given) := replayed
  rw [same]
  refine ⟨rfl, rfl, ?report, rfl, ?threads⟩
  case report =>
    rw [Replay.report, Replay.report]
    simp only [Reached.mapState, Replay.statistics_rename]
    rfl
  case threads =>
    intro ended
    obtain ⟨rfl, incarnate⟩ := live ended
    refine ⟨rfl, fun event renamedEvent here renamedHere => ?_⟩
    rw [getElem?_renamed, here] at renamedHere
    cases renamedHere
    obtain ⟨inside, rfl⟩ := List.getElem?_eq_some_iff.1 here
    have next := distinguishes.take (count + 1)
    rw [List.take_succ_eq_append_getElem inside] at next
    have separates (id : UInt32) (named : events[count].thread? = some id) :=
      separates_names incarnate next named
    exact ⟨outcome?_rename separates, disposition?_rename separates⟩

/-- An identifier begins again while another thread is live; its first incarnation takes the
name of the other thread, and the second one a name that is new. -/
theorem applyAll_eq_of_renamed_reused :
    let load : Instruction :=
      ⟨0, .ldr, none, .load .word ⟨1⟩ ⟨⟨2⟩, none, 0, false, 0, .offset⟩⟩
    let store : Instruction :=
      ⟨4, .str, none, .store .word ⟨1⟩ ⟨⟨1⟩, none, 0, false, 4, .offset⟩ none⟩
    let events : List Event :=
      [.taint 0 4 (some 3), .step 1 load Context.zero, .step 2 store Context.zero,
        .threadExit 1, .step 1 store Context.zero, .threadExit 2]
    let given : List Event :=
      [.taint 0 4 (some 3), .step 2 load Context.zero, .step 1 store Context.zero,
        .threadExit 2, .step 7 store Context.zero, .threadExit 1]
    let naming : Incarnation -> UInt32 := fun incarnation =>
      if incarnation.exits = 0 then 3 - incarnation.id else 7
    let analysis : Analysis := ⟨AnalysisConfig.standard, [], 1⟩
    Distinguishes naming events ∧ renamed naming events = given ∧
      ∃ memory, Memory.create 0 16 = .ok memory ∧
        (analysis.applyAll (Replay.start memory) (given.take 6)).state.report =
          (analysis.applyAll (Replay.start memory) (events.take 6)).state.report := by
  intro load store events given naming analysis
  have distinguishes : Distinguishes naming events := by decide
  have same : renamed naming events = given := by decide
  refine ⟨distinguishes, same, _, rfl, ?_⟩
  rw [← same]
  exact (applyAll_eq_of_renamed analysis _ events naming distinguishes 6).2.2.1

end Analysis
end ShadowTaint
