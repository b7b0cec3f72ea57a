import ShadowTaint.Proofs.Labels.Replay
import ShadowTaint.Proofs.Shadow.History

/-!
# Relabelling

Label bits propagate independently. A relabelling that keeps the clean label and
commutes with the union may be applied to the labels that a replay introduces or to
the labels that it ends with. So no label appears that was not introduced: a mask of
all the labels that are introduced is a mask of every label in memory and registers,
and from clean labels alone nothing is ever tainted or found.
-/

namespace ShadowTaint

namespace Event

/-- The label of a taint request that has one. -/
def label? : Event -> Option UInt8
  | taint _ _ label? => label?
  | _ => none

/-- Relabel the label of a taint request that has one. -/
def mapLabel (change : UInt8 -> UInt8) : Event -> Event
  | taint address length label? => taint address length (label?.map change)
  | event => event

theorem relabel_label (event : Event) : event.relabel (event.label?.getD 0) = event := by
  cases event with
  | taint address length label? => cases label? <;> rfl
  | _ => rfl

theorem relabel_mapLabel (change : UInt8 -> UInt8) (event : Event) :
    event.relabel (change (event.label?.getD 0)) = event.mapLabel change := by
  cases event with
  | taint address length label? => cases label? <;> rfl
  | _ => rfl

end Event

namespace Analysis

/-- Relabel the labels that an analysis introduces. -/
def mapLabels (change : UInt8 -> UInt8) (analysis : Analysis) : Analysis where
  config := analysis.config.withLabel (change analysis.config.defaultLabel)
  sourceCalls := analysis.sourceCalls
  sourceLabel := change analysis.sourceLabel

/-- The replay of a trace introduces a label. -/
def Introduces (analysis : Analysis) (events : List Event) (label : UInt8) : Prop :=
  label = analysis.config.defaultLabel ∨ label = analysis.sourceLabel ∨
    ∃ event ∈ events, event.label? = some label

end Analysis

/-- The finding with its taint relabelled, unless that is clean. -/
def TaintedAccess.mapTaint? (change : UInt8 -> UInt8) (access : TaintedAccess) :
    Option TaintedAccess :=
  let taint := access.taint.map change
  if taint.isTainted then some { access with taint := taint } else none

/-- The finding with its taint relabelled, unless that is clean. -/
def TaintedJump.mapTaint? (change : UInt8 -> UInt8) (jump : TaintedJump) :
    Option TaintedJump :=
  let taint := jump.taint.map change
  if taint.isTainted then some { jump with taint := taint } else none

/-- The taint of a whole replay is that of another, relabelled. -/
structure Relabelled (change : UInt8 -> UInt8) (original mapped : Replay) : Prop where
  label : ∀ address,
    mapped.memory.labels.label address = change (original.memory.labels.label address)
  taint : ∀ id reg,
    mapped.taint? id reg = (original.taint? id reg).map fun taint => taint.map change
  statistics : mapped.statistics = original.statistics

/-- What relabelling says about the replays of the beginnings of a trace. -/
structure Relabels
    (change : UInt8 -> UInt8)
    (original mapped : Nat -> Reached Fault Replay Unit) : Prop where
  /-- The replays come to the same event, and to the same fault if there is one. -/
  result : ∀ count, (mapped count).result = (original count).result
  state : ∀ count, (original count).result = .ok () ->
    Relabelled change (original count).state (mapped count).state
  accesses : ∀ count, (original (count + 1)).result = .ok () ->
    ∃ added : List TaintedAccess,
      (original (count + 1)).state.findings.accesses =
          (original count).state.findings.accesses ++ added ∧
        (mapped (count + 1)).state.findings.accesses =
          (mapped count).state.findings.accesses ++
            added.filterMap (TaintedAccess.mapTaint? change)
  jumps : ∀ count, (original (count + 1)).result = .ok () ->
    ∃ added : List TaintedJump,
      (original (count + 1)).state.findings.jumps =
          (original count).state.findings.jumps ++ added ∧
        (mapped (count + 1)).state.findings.jumps =
          (mapped count).state.findings.jumps ++
            added.filterMap (TaintedJump.mapTaint? change)

/-- Every label of a replay has only bits of the mask. -/
structure Replay.Masked (mask : UInt8) (replay : Replay) : Prop where
  label : ∀ address, replay.memory.labels.label address &&& mask =
    replay.memory.labels.label address
  taint : ∀ id reg taint, replay.taint? id reg = some taint ->
    ∀ label ∈ taint.toList, label &&& mask = label

/-- No label of a replay is tainted, and nothing was found. -/
structure Replay.Untainted (replay : Replay) : Prop where
  label : ∀ address, replay.memory.labels.label address = 0
  taint : ∀ id reg taint, replay.taint? id reg = some taint -> taint = Lanes.clean
  accesses : replay.findings.accesses = #[]
  jumps : replay.findings.jumps = #[]

namespace LabelRelation

/-! ## A replay and its relabelled version -/

/-- One of two replays: with the original labels, or with the relabelled ones. -/
inductive Version
  | original | mapped

/-- What belongs to each version. -/
def Version.pick (original mapped : Value) : Version -> Value
  | .original => original
  | .mapped => mapped

/-- Relabelled labels. -/
def relabelling
    (change : UInt8 -> UInt8)
    (zero : change 0 = 0)
    (union : ∀ first second, change (first ||| second) = change first ||| change second) :
    LabelRelation Version where
  holds labels := labels .mapped = change (labels .original)
  zero := zero.symm
  union := by
    intro first second firstHolds secondHolds
    show first .mapped ||| second .mapped = change (first .original ||| second .original)
    rw [union, firstHolds, secondHolds]

/-- The labels of one run have only bits of the mask. -/
def masking (mask : UInt8) : LabelRelation Unit where
  holds labels := labels () &&& mask = labels ()
  zero := UInt8.zero_and
  union := by
    intro first second firstHolds secondHolds
    have distributed : (first () ||| second ()) &&& mask =
        (first () &&& mask) ||| (second () &&& mask) :=
      UInt8.toBitVec_inj.1 BitVec.and_or_distrib_right
    rw [distributed, firstHolds, secondHolds]

section Relabelling

variable {change : UInt8 -> UInt8} {zero : change 0 = 0}
  {union : ∀ first second, change (first ||| second) = change first ||| change second}
  {base size : Nat}

theorem Taints.mapped
    {taints : Version -> Lanes}
    (related : (relabelling change zero union).Taints taints) :
    taints .mapped = (taints .original).map change :=
  Lanes.ext (related 0) (related 1) (related 2) (related 3)

theorem Replays.relabelled
    {replays : Version -> Replay}
    (related : (relabelling change zero union).Replays base size replays) :
    Relabelled change (replays .original) (replays .mapped) where
  label := related.memories.label
  taint := by
    intro id reg
    obtain absent | ⟨taints, taintsRelated, present⟩ := related.taint? id reg
    · rw [absent, absent]
      rfl
    · rw [present, present, taintsRelated.mapped]
      rfl
  statistics := related.statistics.eq .mapped .original

/-- The mapped version adds the findings of the original that stay tainted. -/
theorem Extends.mapTaint
    {finding : Site -> Lanes -> Finding}
    {mapTaint? : Finding -> Option Finding}
    {befores afters : Version -> Array Finding}
    (maps : ∀ site taint, mapTaint? (finding site taint) =
      if (taint.map change).isTainted then some (finding site (taint.map change)) else none)
    (extended : (relabelling change zero union).Extends finding befores afters) :
    ∃ added : List Finding, afters .original = befores .original ++ added ∧
      afters .mapped = befores .mapped ++ added.filterMap mapTaint? := by
  obtain ⟨sites, taints, related, added⟩ := extended
  refine ⟨recordedAt finding sites (taints .original), added .original, ?_⟩
  rw [added .mapped, recordedAt, recordedAt, List.filterMap_filterMap]
  congr 2
  funext site
  rw [(related site).mapped]
  cases seen : (taints .original site).isTainted with
  | true => exact (maps site _).symm
  | false =>
      have cleanMapped : Lanes.clean.map change = Lanes.clean := by
        simp only [Lanes.map, Lanes.clean, zero]
      rw [Lanes.isTainted_eq_false_iff.1 seen, cleanMapped]
      rfl

theorem Analyses.relabelled (analysis : Analysis) :
    (relabelling change zero union).Analyses
      (Version.pick analysis (analysis.mapLabels change)) := by
  have versions : Version.pick analysis (analysis.mapLabels change) = fun version =>
      ⟨analysis.config.withLabel (Version.pick analysis.config.defaultLabel
          (change analysis.config.defaultLabel) version), analysis.sourceCalls,
        Version.pick analysis.sourceLabel (change analysis.sourceLabel) version⟩ := by
    funext version
    cases version <;> rfl
  rw [versions]
  exact .intro analysis.config analysis.sourceCalls rfl rfl

theorem Traces.relabelled (events : List Event) :
    (relabelling change zero union).Traces
      (Version.pick events (events.map (Event.mapLabel change))) := by
  induction events with
  | nil =>
      have versions : Version.pick [] ([].map (Event.mapLabel change)) = fun _ => [] := by
        funext version
        cases version <;> rfl
      rw [versions]
      exact .nil
  | cons event rest inductionHypothesis =>
      have versions : Version.pick (event :: rest)
          ((event :: rest).map (Event.mapLabel change)) = fun version =>
            event.relabel (Version.pick (event.label?.getD 0)
              (change (event.label?.getD 0)) version) ::
                Version.pick rest (rest.map (Event.mapLabel change)) version := by
        funext version
        cases version with
        | original => exact congrArg (· :: rest) event.relabel_label.symm
        | mapped =>
            exact congrArg (· :: rest.map (Event.mapLabel change))
              (event.relabel_mapLabel change).symm
      rw [versions]
      exact .cons event rfl inductionHypothesis

end Relabelling

/-! ## One replay under a mask -/

section Masking

variable {mask : UInt8} {base size : Nat}

theorem Taints.masked
    {taints : Unit -> Lanes}
    (related : (masking mask).Taints taints)
    {label : UInt8}
    (member : label ∈ (taints ()).toList) :
    label &&& mask = label := by
  obtain ⟨position, inside, rfl⟩ := List.getElem_of_mem member
  have here : (taints ()).toList.getD position 0 &&& mask =
      (taints ()).toList.getD position 0 := related position
  rwa [List.getD_eq_getElem?_getD, List.getElem?_eq_getElem inside] at here

theorem Replays.masked
    {replays : Unit -> Replay}
    (related : (masking mask).Replays base size replays) :
    (replays ()).Masked mask where
  label := related.memories.label
  taint := by
    intro id reg taint present label member
    obtain absent | ⟨taints, taintsRelated, found⟩ := related.taint? id reg
    · rw [absent ()] at present
      cases present
    · rw [found ()] at present
      cases present
      exact taintsRelated.masked member

theorem Analyses.masked
    {analysis : Analysis}
    (default : analysis.config.defaultLabel &&& mask = analysis.config.defaultLabel)
    (source : analysis.sourceLabel &&& mask = analysis.sourceLabel) :
    (masking mask).Analyses fun _ => analysis :=
  .intro analysis.config analysis.sourceCalls default source

theorem Traces.masked
    {events : List Event}
    (introduced : ∀ event ∈ events, ∀ label, event.label? = some label -> label &&& mask = label) :
    (masking mask).Traces fun _ => events := by
  induction events with
  | nil => exact .nil
  | cons event rest inductionHypothesis =>
      have label : event.label?.getD 0 &&& mask = event.label?.getD 0 := by
        cases found : event.label? with
        | none => exact UInt8.zero_and
        | some label => exact introduced event List.mem_cons_self label found
      rw [← event.relabel_label]
      exact .cons event label (inductionHypothesis fun other member =>
        introduced other (List.mem_cons_of_mem _ member))

theorem Taints.clean_of_masked
    {taints : Unit -> Lanes}
    (related : (masking 0).Taints taints) :
    taints () = Lanes.clean := by
  have lane (position : Nat) : (taints ()).toList.getD position 0 = 0 :=
    (related position).symm.trans UInt8.and_zero
  exact Lanes.ext (lane 0) (lane 1) (lane 2) (lane 3)

/-- Nothing is recorded where nothing can be tainted. -/
theorem Extends.eq_of_clean
    {finding : Site -> Lanes -> Finding}
    {befores afters : Unit -> Array Finding}
    (extended : (masking 0).Extends finding befores afters) :
    afters () = befores () := by
  obtain ⟨sites, taints, related, added⟩ := extended
  have none : recordedAt finding sites (taints ()) = [] := by
    rw [recordedAt, List.filterMap_eq_nil_iff]
    intro site _
    rw [(related site).clean_of_masked]
    rfl
  rw [added (), none, Array.appendList_nil]

end Masking
end LabelRelation

namespace Analysis

open LabelRelation

variable {analysis : Analysis} {events : List Event} {memory : Memory}

theorem labels_of_createMemory (created : analysis.createMemory = .ok memory) :
    memory.labels = LabelMap.clean analysis.config.shadowBase.toNat
      analysis.config.shadowSize.toNat :=
  Memory.labels_of_create created

section Versions

variable {change : UInt8 -> UInt8} (zero : change 0 = 0)
  (union : ∀ first second, change (first ||| second) = change first ||| change second)

/-- The replay of each version. -/
def replayed
    (analysis : Analysis)
    (change : UInt8 -> UInt8)
    (memory : Memory)
    (events : List Event)
    (version : Version) : Reached Fault Replay Unit :=
  (version.pick analysis (analysis.mapLabels change)).applyAll (Replay.start memory)
    (version.pick events (events.map (Event.mapLabel change)))

theorem replayed_alike (created : analysis.createMemory = .ok memory) :
    Alike
      (fun replays _ => (relabelling change zero union).Replays
        analysis.config.shadowBase.toNat analysis.config.shadowSize.toNat replays)
      (analysis.replayed change memory events) := by
  have start : (relabelling change zero union).Replays
      analysis.config.shadowBase.toNat analysis.config.shadowSize.toNat
      fun _ => Replay.start memory :=
    .start (labels_of_createMemory created)
  have applied := start.applyAll (Analyses.relabelled analysis) (Traces.relabelled events)
    (fun _ _ _ _ => trivial) trivial
  exact applied.imp fun _ _ ends => ends.1

theorem replayed_recorded
    {count : Nat}
    (created : analysis.createMemory = .ok memory)
    (ended : (analysis.replayed change memory (events.take (count + 1)) .original).result =
      .ok ()) :
    (relabelling change zero union).Recorded
      (fun version =>
        (analysis.replayed change memory (events.take count) version).state.findings)
      fun version =>
        (analysis.replayed change memory (events.take (count + 1)) version).state.findings := by
  have start : (relabelling change zero union).Replays
      analysis.config.shadowBase.toNat analysis.config.shadowSize.toNat
      fun _ => Replay.start memory :=
    .start (labels_of_createMemory created)
  rw [List.take_add_one] at ended ⊢
  cases next : events[count]? with
  | none =>
      simp only [Option.toList_none, List.append_nil]
      exact .ofEq (fun _ => rfl) (fun _ => rfl)
  | some event =>
      have traces (version : Version) :
          version.pick (events.take count ++ [event])
              ((events.take count ++ [event]).map (Event.mapLabel change)) =
            version.pick (events.take count) ((events.take count).map (Event.mapLabel change)) ++
              [event.relabel
                (version.pick (event.label?.getD 0) (change (event.label?.getD 0)))] := by
        cases version with
        | original => exact congrArg (fun last => _ ++ [last]) event.relabel_label.symm
        | mapped =>
            show List.map _ _ = List.map _ _ ++ [event.relabel (change _)]
            rw [List.map_append, event.relabel_mapLabel]
            rfl
      simp only [next, Option.toList_some, replayed, traces] at ended ⊢
      exact start.recorded (Analyses.relabelled analysis)
        (Traces.relabelled (events.take count)) rfl ended

/-- A replay and its relabelled version go the same way through a trace. -/
theorem relabels
    (zero : change 0 = 0)
    (union : ∀ first second, change (first ||| second) = change first ||| change second)
    (created : analysis.createMemory = .ok memory) :
    Relabels change
      (fun count => analysis.replayed change memory (events.take count) .original)
      fun count => analysis.replayed change memory (events.take count) .mapped := by
  have alike (count : Nat) : Alike _ (analysis.replayed change memory (events.take count)) :=
    replayed_alike zero union created
  refine ⟨?result, ?state, ?accesses, ?jumps⟩
  case result =>
    intro count
    exact ((alike count).imp fun _ values _ => ⟨(), rfl⟩).result.eq .mapped .original
  case state =>
    intro count ended
    obtain ⟨replays, _, related, reached⟩ := (alike count).ends .original ended
    simp only [reached]
    exact related.relabelled
  case accesses =>
    intro count ended
    exact (replayed_recorded zero union created ended).accesses.mapTaint
      fun _ _ => rfl
  case jumps =>
    intro count ended
    exact (replayed_recorded zero union created ended).jumps.mapTaint
      fun _ _ => rfl

end Versions

/-- A mask of the labels that are introduced is a mask of all labels. -/
theorem masked
    {mask : UInt8}
    {count : Nat}
    (invariant : (Unit -> Findings) -> Prop)
    (created : analysis.createMemory = .ok memory)
    (introduced : ∀ label, analysis.Introduces events label -> label &&& mask = label)
    (kept : ∀ befores afters, (masking mask).Recorded befores afters -> invariant befores ->
      invariant afters)
    (holds : invariant fun _ => Findings.none)
    (ended : (analysis.applyAll (Replay.start memory) (events.take count)).result = .ok ()) :
    let reached := (analysis.applyAll (Replay.start memory) (events.take count)).state
    reached.Masked mask ∧ invariant fun _ => reached.findings := by
  intro reached
  have start : (masking mask).Replays analysis.config.shadowBase.toNat
      analysis.config.shadowSize.toNat fun _ => Replay.start memory :=
    .start (labels_of_createMemory created)
  have analyses : (masking mask).Analyses fun _ => analysis :=
    .masked (introduced _ (.inl rfl)) (introduced _ (.inr (.inl rfl)))
  have traces : (masking mask).Traces fun _ => events.take count :=
    .masked fun event member label found =>
      introduced label (.inr (.inr ⟨event, List.mem_of_mem_take member, found⟩))
  obtain ⟨replays, _, ⟨related, invariantHolds⟩, applied⟩ :=
    (start.applyAll analyses traces kept holds).ends () ended
  have same : reached = replays () := congrArg Reached.state (applied ())
  rw [same]
  exact ⟨related.masked, invariantHolds⟩

/-- From clean labels nothing is tainted and nothing is found. -/
theorem untainted
    {count : Nat}
    (created : analysis.createMemory = .ok memory)
    (introduced : ∀ label, analysis.Introduces events label -> label = 0)
    (ended : (analysis.applyAll (Replay.start memory) (events.take count)).result = .ok ()) :
    (analysis.applyAll (Replay.start memory) (events.take count)).state.Untainted := by
  have zeroMask (label : UInt8) (holds : analysis.Introduces events label) :
      label &&& 0 = label := by
    rw [introduced label holds]
    rfl
  obtain ⟨within, accesses, jumps⟩ := masked
    (fun findings => (findings ()).accesses = #[] ∧ (findings ()).jumps = #[])
    created zeroMask
    (fun befores afters recorded empty =>
      ⟨recorded.accesses.eq_of_clean.trans empty.1, recorded.jumps.eq_of_clean.trans empty.2⟩)
    ⟨rfl, rfl⟩ ended
  refine ⟨fun address => ?_, fun id reg taint present => ?_, accesses, jumps⟩
  · exact (within.label address).symm.trans UInt8.and_zero
  · have lane (label : UInt8) (member : label ∈ taint.toList) : label = 0 :=
      (within.taint id reg taint present label member).symm.trans UInt8.and_zero
    obtain ⟨lane0, lane1, lane2, lane3⟩ := taint
    simp only [Lanes.toList, List.mem_cons, List.not_mem_nil, or_false, forall_eq_or_imp,
      forall_eq] at lane
    obtain ⟨rfl, rfl, rfl, rfl⟩ := lane
    rfl

/-- Label bits propagate independently, and no taint comes out of nothing. A replay of
relabelled labels is the relabelled replay, for every relabelling that keeps the clean
label and commutes with the union; all labels stay within a mask of those that are
introduced; and if those are all clean, everything stays clean and nothing is found. -/
theorem applyAll_relabels
    (analysis : Analysis)
    (events : List Event)
    {memory : Memory}
    (created : analysis.createMemory = .ok memory) :
    (∀ change : UInt8 -> UInt8, change 0 = 0 ->
      (∀ first second, change (first ||| second) = change first ||| change second) ->
        Relabels change
          (fun count => analysis.applyAll (Replay.start memory) (events.take count))
          fun count => (analysis.mapLabels change).applyAll (Replay.start memory)
            ((events.map (Event.mapLabel change)).take count)) ∧
      (∀ mask, (∀ label, analysis.Introduces events label -> label &&& mask = label) ->
        ∀ count, (analysis.applyAll (Replay.start memory) (events.take count)).result = .ok () ->
          (analysis.applyAll (Replay.start memory) (events.take count)).state.Masked mask) ∧
      ((∀ label, analysis.Introduces events label -> label = 0) ->
        ∀ count, (analysis.applyAll (Replay.start memory) (events.take count)).result = .ok () ->
          (analysis.applyAll (Replay.start memory) (events.take count)).state.Untainted) := by
  refine ⟨?relabels, ?masked, ?untainted⟩
  case relabels =>
    intro change zero union
    simp only [← List.map_take]
    exact relabels zero union created
  case masked =>
    intro mask introduced count ended
    exact (masked (fun _ => True) created introduced (fun _ _ _ _ => trivial) trivial ended).1
  case untainted =>
    intro introduced count ended
    exact untainted created introduced ended

/-- The low bit of a label that is loaded back is the label of its low bit. -/
theorem applyAll_relabels_lowBit :
    let config := { AnalysisConfig.standard with shadowSize := 16 }
    let load : Operation := .load .word ⟨1⟩ ⟨⟨2⟩, none, 0, false, 0, .offset⟩
    let events : List Event :=
      [.taint 0 4 (some 3), .step 0 ⟨0, .ldr, none, load⟩ Context.zero]
    let analysis : Analysis := ⟨config, [], 8⟩
    ∃ memory, analysis.createMemory = .ok memory ∧
      Relabels (· &&& 1)
        (fun count => analysis.applyAll (Replay.start memory) (events.take count))
        fun count => (analysis.mapLabels (· &&& 1)).applyAll (Replay.start memory)
          ((events.map (Event.mapLabel (· &&& 1))).take count) :=
  ⟨_, rfl, (applyAll_relabels _ _ rfl).1 (· &&& 1) rfl
    fun _ _ => UInt8.toBitVec_inj.1 BitVec.and_or_distrib_right⟩

end Analysis
end ShadowTaint
