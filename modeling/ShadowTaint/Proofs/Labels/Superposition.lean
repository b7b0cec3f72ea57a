import ShadowTaint.Proofs.Labels.Replay
import ShadowTaint.Proofs.Shadow.History

/-!
# Superposition

Sources of taint superpose. A labelling chooses every label that the replay of a trace
introduces. Under the union of two labellings a replay stops at the same event as under
either of them, and after every event each lane and each byte is the union of what it
is under the two. Findings superpose as well: at each site that is checked, the taint
seen under the union is the union of the taints seen.
-/

namespace ShadowTaint

/-- A choice of the labels that the replay of a trace introduces. -/
structure Labelling where
  /-- The labels of the taint requests that have one, by the position of the event. -/
  explicit : Nat -> UInt8
  /-- The label of taint that is requested without a label. -/
  default : UInt8
  /-- The label of the outputs of sources. -/
  source : UInt8

namespace Labelling

/-- The labels of either labelling. -/
def union (first second : Labelling) : Labelling where
  explicit := fun position => first.explicit position ||| second.explicit position
  default := first.default ||| second.default
  source := first.source ||| second.source

/-- The events with the labels that are chosen for them. -/
def trace (labelling : Labelling) (events : List Event) : List Event :=
  events.mapIdx fun position event => event.relabel (labelling.explicit position)

/-- An analysis with the labels that are chosen for it. -/
def analysis (labelling : Labelling) (config : AnalysisConfig) (calls : List UInt32) :
    Analysis :=
  ⟨config.withLabel labelling.default, calls, labelling.source⟩

/-- Replay a trace from the start with the labels that are chosen. -/
def replay
    (labelling : Labelling)
    (config : AnalysisConfig)
    (calls : List UInt32)
    (memory : Memory)
    (events : List Event) : Reached Fault Replay Unit :=
  (labelling.analysis config calls).applyAll (Replay.start memory) (labelling.trace events)

theorem trace_concat (labelling : Labelling) (past : List Event) (event : Event) :
    labelling.trace (past ++ [event]) =
      labelling.trace past ++ [event.relabel (labelling.explicit past.length)] := by
  rw [trace, List.mapIdx_append]
  simp only [List.mapIdx_cons, List.mapIdx_nil, Nat.zero_add]
  rfl

end Labelling

namespace LabelRelation

variable {Run : Type} {relation : LabelRelation Run} {base size : Nat}
  {labellings : Run -> Labelling}

/-- Labellings with related labels throughout. -/
structure Labellings
    (relation : LabelRelation Run)
    (labellings : Run -> Labelling) : Prop where
  explicit : ∀ position, relation.holds fun run => (labellings run).explicit position
  default : relation.holds fun run => (labellings run).default
  source : relation.holds fun run => (labellings run).source

namespace Labellings

theorem analyses
    (related : relation.Labellings labellings)
    (config : AnalysisConfig)
    (calls : List UInt32) :
    relation.Analyses fun run => (labellings run).analysis config calls :=
  .intro config calls related.default related.source

theorem traces (related : relation.Labellings labellings) (events : List Event) :
    relation.Traces fun run => (labellings run).trace events := by
  unfold Labelling.trace
  have shifted (events : List Event) (explicit : Run -> Nat -> UInt8)
      (holds : ∀ position, relation.holds fun run => explicit run position) :
      relation.Traces fun run =>
        events.mapIdx fun position event => event.relabel (explicit run position) := by
    induction events generalizing explicit with
    | nil => exact .nil
    | cons event rest inductionHypothesis =>
        simp only [List.mapIdx_cons]
        exact .cons event (holds 0)
          (inductionHypothesis (fun run position => explicit run (position + 1))
            fun position => holds (position + 1))
  exact shifted events (fun run => (labellings run).explicit) related.explicit

variable {memory : Memory}

/-- A trace is replayed alike under related labellings. -/
theorem replay
    (related : relation.Labellings labellings)
    (config : AnalysisConfig)
    (calls : List UInt32)
    (clean : memory.labels = LabelMap.clean base size)
    (events : List Event) :
    Alike (fun replays _ => relation.Replays base size replays)
      fun run => (labellings run).replay config calls memory events := by
  have start : relation.Replays base size fun _ => Replay.start memory := .start clean
  have applied := start.applyAll
    (related.analyses config calls) (related.traces events) (fun _ _ _ _ => trivial) trivial
  exact applied.imp fun _ _ ends => ends.1

/-- Each event of a trace adds findings at the same sites. -/
theorem recorded
    {config : AnalysisConfig}
    {calls : List UInt32}
    {events : List Event}
    {count : Nat}
    {run : Run}
    (related : relation.Labellings labellings)
    (clean : memory.labels = LabelMap.clean base size)
    (ended : ((labellings run).replay config calls memory (events.take (count + 1))).result =
      .ok ()) :
    relation.Recorded
      (fun run =>
        ((labellings run).replay config calls memory (events.take count)).state.findings)
      fun run =>
        ((labellings run).replay config calls memory (events.take (count + 1))).state.findings := by
  have start : relation.Replays base size fun _ => Replay.start memory := .start clean
  rw [List.take_add_one] at ended ⊢
  cases next : events[count]? with
  | none =>
      simp only [Option.toList_none, List.append_nil]
      exact .ofEq (fun _ => rfl) (fun _ => rfl)
  | some event =>
      simp only [next, Option.toList_some, Labelling.replay, Labelling.trace_concat]
        at ended ⊢
      exact start.recorded (related.analyses config calls)
        (related.traces (events.take count)) (related.explicit _) ended

end Labellings
end LabelRelation

/-! ## Two labellings and their union -/

/-- One of three replays: under either of two labellings, or under their union. -/
inductive Side
  | first | second | union
  deriving DecidableEq

namespace Labelling

/-- The labelling of each side. -/
def side (first second : Labelling) : Side -> Labelling
  | .first => first
  | .second => second
  | .union => first.union second

end Labelling

namespace LabelRelation

/-- On the side of the union there are the labels of both others. -/
def superposition : LabelRelation Side where
  holds labels := labels .union = labels .first ||| labels .second
  zero := rfl
  union := by
    intro first second firstHolds secondHolds
    show first .union ||| second .union =
      (first .first ||| second .first) ||| (first .second ||| second .second)
    rw [firstHolds, secondHolds]
    ac_rfl

theorem Taints.superposition
    {taints : Side -> Lanes}
    (related : superposition.Taints taints) :
    taints .union = (taints .first).union (taints .second) :=
  Lanes.ext (related 0) (related 1) (related 2) (related 3)

end LabelRelation

/-- Every lane and every byte under the union is the union of those under the two
labellings, and everything is counted alike. -/
structure Superposed (replays : Side -> Replay) : Prop where
  label : ∀ address, (replays .union).memory.labels.label address =
    (replays .first).memory.labels.label address |||
      (replays .second).memory.labels.label address
  taint : ∀ id reg,
    (∀ side, (replays side).taint? id reg = none) ∨
      ∃ first second, (replays .first).taint? id reg = some first ∧
        (replays .second).taint? id reg = some second ∧
        (replays .union).taint? id reg = some (first.union second)
  statistics : ∀ side, (replays side).statistics = (replays .union).statistics

/-- The sides add findings at the same sites: each where it sees taint, and under the
union the taint is the union of what the two others see, clean or not. -/
def FindingsSuperpose
    (finding : Site -> Lanes -> Finding)
    (befores afters : Side -> Array Finding) : Prop :=
  ∃ (sites : List Site) (first second : Site -> Lanes),
    afters .first = befores .first ++ recordedAt finding sites first ∧
      afters .second = befores .second ++ recordedAt finding sites second ∧
      afters .union = befores .union ++
        recordedAt finding sites fun site => (first site).union (second site)

/-- What superposition says about the replays of the beginnings of a trace. -/
structure Superposes
    (analyses : Side -> Analysis)
    (events : List Event)
    (reached : Side -> Nat -> Reached Fault Replay Unit) : Prop where
  /-- The replays come to the same event, and to the same fault if there is one. -/
  result : ∀ count side, (reached side count).result = (reached .union count).result
  state : ∀ count, (reached .union count).result = .ok () ->
    Superposed fun side => (reached side count).state
  outcome : ∀ count event, events[count]? = some event ->
    (reached .union count).result = .ok () ->
      ∀ side, (analyses side).outcome? (reached side count).state event =
        (analyses .union).outcome? (reached .union count).state event
  accesses : ∀ count, (reached .union (count + 1)).result = .ok () ->
    FindingsSuperpose AccessSite.finding
      (fun side => (reached side count).state.findings.accesses)
      fun side => (reached side (count + 1)).state.findings.accesses
  jumps : ∀ count, (reached .union (count + 1)).result = .ok () ->
    FindingsSuperpose JumpSite.finding
      (fun side => (reached side count).state.findings.jumps)
      fun side => (reached side (count + 1)).state.findings.jumps

namespace LabelRelation

theorem Replays.superposed
    {base size : Nat}
    {replays : Side -> Replay}
    (related : superposition.Replays base size replays) :
    Superposed replays where
  label := related.memories.label
  taint := by
    intro id reg
    obtain absent | ⟨taints, taintsRelated, present⟩ := related.taint? id reg
    · exact .inl absent
    · refine .inr ⟨taints .first, taints .second, present .first, present .second, ?_⟩
      rw [present .union, taintsRelated.superposition]
  statistics := fun side => related.statistics.eq side .union

theorem Extends.superpose
    {finding : Site -> Lanes -> Finding}
    {befores afters : Side -> Array Finding}
    (extended : superposition.Extends finding befores afters) :
    FindingsSuperpose finding befores afters := by
  obtain ⟨sites, taints, related, added⟩ := extended
  refine ⟨sites, taints .first, taints .second, added .first, added .second, ?_⟩
  rw [added .union, funext fun site => (related site).superposition]

theorem Labellings.sides (first second : Labelling) :
    superposition.Labellings (first.side second) where
  explicit := fun _ => rfl
  default := rfl
  source := rfl

end LabelRelation

/-- Sources of taint superpose over whole replays: whatever the trace, the settings and
the sources, a replay under the union of two labellings is, after every event, the
union of the replays under the two. -/
theorem Labelling.replay_union_superposes
    (config : AnalysisConfig)
    (calls : List UInt32)
    (first second : Labelling)
    (events : List Event)
    {memory : Memory}
    (created : config.createMemory = .ok memory) :
    Superposes
      (fun side => (first.side second side).analysis config calls)
      events
      fun side count =>
        (first.side second side).replay config calls memory (events.take count) := by
  have sides := LabelRelation.Labellings.sides first second
  have clean : memory.labels = LabelMap.clean config.shadowBase.toNat
      config.shadowSize.toNat := Memory.labels_of_create created
  have replayed := fun count => sides.replay config calls clean (events.take count)
  refine ⟨?result, ?state, ?outcome, ?accesses, ?jumps⟩
  case result =>
    intro count side
    exact ((replayed count).imp fun _ values _ => ⟨(), rfl⟩).result.eq side .union
  case state =>
    intro count ended
    obtain ⟨replays, _, related, reached⟩ := (replayed count).ends .union ended
    simp only [reached]
    exact related.superposed
  case outcome =>
    intro count event _ ended side
    obtain ⟨replays, _, related, reached⟩ := (replayed count).ends .union ended
    simp only [reached]
    exact (related.outcome? (sides.analyses config calls) event).eq side .union
  case accesses =>
    intro count ended
    exact (sides.recorded clean ended).accesses.superpose
  case jumps =>
    intro count ended
    exact (sides.recorded clean ended).jumps.superpose

/-- Two labels of one request superpose in a word that is loaded back. -/
theorem Labelling.replay_union_superposes_request :
    let config := { AnalysisConfig.standard with shadowSize := 16 }
    let load : Operation := .load .word ⟨1⟩ ⟨⟨2⟩, none, 0, false, 0, .offset⟩
    let events : List Event :=
      [.taint 0 4 (some 1), .step 0 ⟨0, .ldr, none, load⟩ Context.zero]
    let first : Labelling := ⟨fun _ => 1, 4, 8⟩
    let second : Labelling := ⟨fun _ => 2, 4, 16⟩
    ∃ memory, config.createMemory = .ok memory ∧
      Superposes
        (fun side => (first.side second side).analysis config [])
        events
        fun side count =>
          (first.side second side).replay config [] memory (events.take count) :=
  ⟨_, rfl, Labelling.replay_union_superposes _ _ _ _ _ rfl⟩

end ShadowTaint
