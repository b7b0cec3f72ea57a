import ShadowTaint.Proofs.Calls.Return

/-!
# The label of sources

The label of sources is for the bytes that a source fills. No other event looks at it: the
requests of a program and the ranges that a trace taints have labels of their own, as have
the buffers of other calls. And of the return of a source it decides nothing but the label
of those bytes, neither whether the return runs nor what is counted or found.
-/

namespace ShadowTaint
namespace Analysis

/-- An event is the return of a source, which brings in labelled data. -/
def BringsIn (analysis : Analysis) : Event -> Prop
  | .callReturn _ call => analysis.isSource call = true
  | _ => False

/-- The same analysis with another label for sources. -/
def withSourceLabel (analysis : Analysis) (label : UInt8) : Analysis :=
  { analysis with sourceLabel := label }

/-- The label of sources goes to the bytes that a source fills, and nowhere else. -/
structure LabelsOutputsOnly (analysis : Analysis) : Prop where
  /-- An event that brings nothing in does not depend on the label. -/
  elsewhere : ∀ label replay event, ¬analysis.BringsIn event ->
    (analysis.withSourceLabel label).apply replay event = analysis.apply replay event
  /-- A run into which nothing is brought does not depend on it either. -/
  unused : ∀ label replay events, (∀ event ∈ events, ¬analysis.BringsIn event) ->
    (analysis.withSourceLabel label).applyAll replay events = analysis.applyAll replay events
  /-- With another label, a return leaves another memory at most. -/
  others : ∀ label replay id call reached,
    analysis.apply replay (.callReturn id call) = .done reached () ->
    ∃ memory, (analysis.withSourceLabel label).apply replay (.callReturn id call) =
      .done { reached with memory := memory } ()
  /-- The return of a source labels the bytes that it fills. -/
  filled : ∀ replay id call reached, analysis.isSource call = true ->
    analysis.apply replay (.callReturn id call) = .done reached () ->
    ∀ address, call.Fills address ->
      reached.memory.labels.label address = analysis.sourceLabel
  /-- It keeps the labels of all other bytes. -/
  kept : ∀ replay id call reached,
    analysis.apply replay (.callReturn id call) = .done reached () ->
    ∀ address, ¬call.Fills address ->
      reached.memory.labels.label address = replay.memory.labels.label address

variable {analysis : Analysis} {replay reached : Replay} {event : Event} {id : UInt32}
  {call : CallReturn}

theorem apply_withSourceLabel
    (label : UInt8)
    (replay : Replay)
    (elsewhere : ¬analysis.BringsIn event) :
    (analysis.withSourceLabel label).apply replay event = analysis.apply replay event := by
  cases event with
  | step | callEntry | taint | untaint | threadExit => rfl
  | callReturn id call =>
      have other : analysis.isSource call = false := Bool.eq_false_iff.2 elsewhere
      have same : (analysis.withSourceLabel label).leaveCall call = analysis.leaveCall call := by
        funext focus
        have noBytes : (analysis.withSourceLabel label).sourceBytes call =
            analysis.sourceBytes call := rfl
        have noInput (shadow : Shadow) : (analysis.withSourceLabel label).labelInput call shadow =
            analysis.labelInput call shadow := by
          have stillOther : (analysis.withSourceLabel label).isSource call = false := other
          rw [labelInput, labelInput, stillOther, other]
          rfl
        simp only [leaveCall, noBytes, noInput]
      rw [apply, apply, same]

theorem applyAll_withSourceLabel
    {events : List Event}
    (label : UInt8)
    (replay : Replay)
    (elsewhere : ∀ event ∈ events, ¬analysis.BringsIn event) :
    (analysis.withSourceLabel label).applyAll replay events = analysis.applyAll replay events := by
  induction events generalizing replay with
  | nil => rfl
  | cons event rest inductionHypothesis =>
      rw [List.forall_mem_cons] at elsewhere
      rw [applyAll, applyAll, apply_withSourceLabel label replay elsewhere.1]
      congr 1
      funext next _
      exact inductionHypothesis next elsewhere.2

/-- What a return leaves of threads, counts and findings does not depend on the label. -/
theorem apply_callReturn_withSourceLabel
    (label : UInt8)
    (ran : analysis.apply replay (.callReturn id call) = .done reached ()) :
    ∃ memory, (analysis.withSourceLabel label).apply replay (.callReturn id call) =
      .done { reached with memory := memory } () := by
  have ended : (analysis.apply replay (.callReturn id call)).result = .ok () := by rw [ran]; rfl
  have keeps := apply_ran_iff.1 ended
  have otherEnded :
      ((analysis.withSourceLabel label).apply replay (.callReturn id call)).result = .ok () :=
    apply_ran_iff.2 keeps
  have done := apply_callReturn_done ended
  have otherDone := apply_callReturn_done otherEnded
  rw [ran] at done
  rw [Reached.eq_done otherEnded]
  generalize (analysis.withSourceLabel label).apply replay (.callReturn id call) = again at otherDone
  obtain ⟨⟨memory, threads, counted, findings⟩, _⟩ := again
  refine ⟨memory, ?_⟩
  have sameThreads : threads = reached.threads := otherDone.threads.trans done.threads.symm
  have sameCounts : counted = reached.counted := otherDone.counted.trans done.counted.symm
  have sameFindings : findings = reached.findings := otherDone.findings.trans done.findings.symm
  rw [sameThreads, sameCounts, sameFindings]

/-- A return that ran labels the bytes that it fills, and keeps all other bytes. -/
theorem label_apply_callReturn
    (ran : analysis.apply replay (.callReturn id call) = .done reached ())
    (address : Nat) :
    (call.Fills address ->
      reached.memory.labels.label address = analysis.filledLabel call.number) ∧
    (¬call.Fills address ->
      reached.memory.labels.label address = replay.memory.labels.label address) := by
  have ended : (analysis.apply replay (.callReturn id call)).result = .ok () := by rw [ran]; rfl
  have mapped := CallReturn.not_violates_iff.1 (apply_ran_iff.1 ended)
  obtain ⟨-, -, -, -, memory⟩ := ran ▸ apply_callReturn_done ended
  dsimp only [Reached.done] at memory
  constructor
  · intro filled
    rw [memory.label_eq_getD (mapped address filled).1]
    exact congrArg (Option.getD · _) (lookup_returnJournal filled)
  · intro unfilled
    exact memory.label_eq fun written => unfilled (writes_returnJournal_iff.1 written)

theorem labelsOutputsOnly (analysis : Analysis) : analysis.LabelsOutputsOnly := by
  constructor
  case elsewhere =>
    intro label replay event elsewhere
    exact apply_withSourceLabel label replay elsewhere
  case unused =>
    intro label replay events elsewhere
    exact applyAll_withSourceLabel label replay elsewhere
  case others =>
    intro label replay id call reached ran
    exact apply_callReturn_withSourceLabel label ran
  case filled =>
    intro replay id call reached source ran address filled
    rw [(label_apply_callReturn ran address).1 filled, filledLabel, if_pos]
    rw [isSource, Bool.and_eq_true] at source
    exact source.2
  case kept =>
    intro replay id call reached ran address unfilled
    exact (label_apply_callReturn ran address).2 unfilled

end Analysis
end ShadowTaint
