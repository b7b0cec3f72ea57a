import ShadowTaint.Proofs.Calls.Return
import ShadowTaint.Proofs.Trace.Reading

/-!
# How the replay of a text ends

The replay of lines gets through all of them, or it ends at the first line that is not
readable or whose event violates its contract. What stands behind that line has no say, so
of two flaws the one that comes first in the text decides.
-/

namespace ShadowTaint
namespace Analysis

open TraceText

/-- Lines are replayed to their end: all of them are readable, and their events ran. -/
structure GetsThrough
    (analysis : Analysis)
    (start : Replay)
    (lines : List (List UInt8))
    (reached : Replay) : Prop where
  readable : ∀ line ∈ lines, Readable line
  ran : analysis.applyAll start (events lines) = .done reached ()

/-- The replay of lines gets to a line, and the lines before it led to a state. -/
def GetsTo
    (analysis : Analysis)
    (start : Replay)
    (lines : List (List UInt8))
    (line : List UInt8)
    (reached : Replay) : Prop :=
  ∃ before after, lines = before ++ line :: after ∧ analysis.GetsThrough start before reached

/-- The replay of lines gets to one that is no text, or no event and not silent. -/
def MeetsFlaw (analysis : Analysis) (start : Replay) (lines : List (List UInt8)) : Prop :=
  ∃ line reached, analysis.GetsTo start lines line reached ∧ ¬Readable line

/-- The replay of lines gets to an event that violates its contract. -/
def MeetsViolation (analysis : Analysis) (start : Replay) (lines : List (List UInt8)) : Prop :=
  ∃ line reached event,
    analysis.GetsTo start lines line reached ∧
    event? line = some event ∧
    event.Violates reached.memory.extent analysis.config (reached.executes event)

variable {analysis : Analysis} {start next reached : Replay} {line : List UInt8}
  {rest lines : List (List UInt8)}

theorem getsThrough_nil (analysis : Analysis) (start : Replay) :
    analysis.GetsThrough start [] start :=
  ⟨List.forall_mem_nil _, rfl⟩

/-- A line that leads to a state can be put before lines that are replayed from there. -/
theorem GetsThrough.cons
    (first : analysis.GetsThrough start [line] next)
    (others : analysis.GetsThrough next rest reached) :
    analysis.GetsThrough start (line :: rest) reached := by
  constructor
  case readable =>
    exact List.forall_mem_cons.2 ⟨first.readable line List.mem_cons_self, others.readable⟩
  case ran =>
    rw [events, ← List.singleton_append, List.filterMap_append, applyAll_append, ← events,
      first.ran]
    exact others.ran

theorem GetsTo.cons
    {bad : List UInt8}
    (first : analysis.GetsThrough start [line] next)
    (others : analysis.GetsTo next rest bad reached) :
    analysis.GetsTo start (line :: rest) bad reached := by
  obtain ⟨before, after, rfl, through⟩ := others
  exact ⟨line :: before, after, rfl, first.cons through⟩

theorem getsTo_head
    (analysis : Analysis)
    (start : Replay)
    (line : List UInt8)
    (rest : List (List UInt8)) :
    analysis.GetsTo start (line :: rest) line start :=
  ⟨[], rest, rfl, analysis.getsThrough_nil start⟩

/-- One line is replayed to its end, or it is not readable, or its event is a violation. -/
theorem line_cases (analysis : Analysis) (start : Replay) (line : List UInt8) :
    (∃ next, analysis.GetsThrough start [line] next) ∨
      ¬Readable line ∨
      ∃ event, event? line = some event ∧
        event.Violates start.memory.extent analysis.config (start.executes event) := by
  by_cases readable : Readable line
  · cases said : event? line with
    | none =>
        refine .inl ⟨start, List.forall_mem_singleton.2 readable, ?_⟩
        rw [events, List.filterMap_cons, said]
        rfl
    | some event =>
        by_cases violates :
            event.Violates start.memory.extent analysis.config (start.executes event)
        · exact .inr (.inr ⟨event, rfl, violates⟩)
        · have ran := Reached.eq_done (apply_ran_iff.2 violates)
          refine .inl ⟨(analysis.apply start event).state, List.forall_mem_singleton.2 readable, ?_⟩
          rw [events, List.filterMap_cons, said]
          exact Reached.andThen_eq_done_iff.2 ⟨_, _, ran, rfl⟩
  · exact .inr (.inl readable)

/-- Lines are replayed to their end, or up to a flaw or a violation. -/
theorem lines_cases (analysis : Analysis) (start : Replay) (lines : List (List UInt8)) :
    (∃ reached, analysis.GetsThrough start lines reached) ∨
      analysis.MeetsFlaw start lines ∨ analysis.MeetsViolation start lines := by
  induction lines generalizing start with
  | nil => exact .inl ⟨start, analysis.getsThrough_nil start⟩
  | cons line rest inductionHypothesis =>
      have here := analysis.getsTo_head start line rest
      obtain ⟨next, first⟩ | unreadable | ⟨event, said, violates⟩ :=
        analysis.line_cases start line
      · obtain ⟨reached, through⟩ | flaw | violation := inductionHypothesis next
        · exact .inl ⟨reached, first.cons through⟩
        · obtain ⟨bad, reached, gets, unreadable⟩ := flaw
          exact .inr (.inl ⟨bad, reached, .cons first gets, unreadable⟩)
        · obtain ⟨bad, reached, event, gets, said, violates⟩ := violation
          exact .inr (.inr ⟨bad, reached, event, .cons first gets, said, violates⟩)
      · exact .inr (.inl ⟨line, start, here, unreadable⟩)
      · exact .inr (.inr ⟨line, start, event, here, said, violates⟩)

/-! ## Results -/

variable {bytes : List UInt8}

theorem replay_of_getsThrough (through : analysis.GetsThrough start (textLines bytes) reached) :
    analysis.replay start bytes = .done reached (events (textLines bytes)).length := by
  have replayed := replayLines_readable through.readable through.ran 1 0
  rwa [Nat.zero_add, ← replay_eq_replayLines] at replayed

/-- The replay of a text that gets to a line goes on there with some numbers. -/
theorem replay_of_getsTo (gets : analysis.GetsTo start (textLines bytes) line reached) :
    ∃ number count after,
      analysis.replay start bytes = analysis.replayLines reached number count (line :: after) := by
  obtain ⟨before, after, split, through⟩ := gets
  have replayed := replayLines_readable through.readable through.ran 1 0
  refine ⟨1 + before.length, 0 + (events before).length, after, ?_⟩
  rw [replay_eq_replayLines, split, replayLines_append, replayed, Reached.andThen_done]

/-- A flaw ends a replay with a failure. -/
theorem result_of_meetsFlaw (flawed : analysis.MeetsFlaw start (textLines bytes)) :
    ∃ failure, (analysis.replay start bytes).result = .error (.failure failure) := by
  obtain ⟨line, reached, gets, unreadable⟩ := flawed
  obtain ⟨number, count, after, replayed⟩ := replay_of_getsTo gets
  refine ⟨flaw number line, ?_⟩
  rw [replayed, replayLines, readLine_of_not_readable number unreadable]
  rfl

/-- A violation ends a replay with a fault. -/
theorem result_of_meetsViolation (violated : analysis.MeetsViolation start (textLines bytes)) :
    ∃ fault, (analysis.replay start bytes).result = .error (.fault fault) := by
  obtain ⟨line, reached, event, gets, said, violates⟩ := violated
  obtain ⟨number, count, after, replayed⟩ := replay_of_getsTo gets
  have readable : Readable line := .inr (Option.isSome_iff_exists.2 ⟨event, said⟩)
  have notRan : ¬(analysis.apply reached event).result = .ok () :=
    fun ran => apply_ran_iff.1 ran violates
  rw [replayed, replayLines, readLine_of_readable number readable, said]
  dsimp only
  generalize analysis.apply reached event = applied at notRan
  obtain ⟨state, result⟩ := applied
  cases result with
  | ok => exact absurd rfl notRan
  | error fault => exact ⟨fault, rfl⟩

/-- A text is not replayed up to both. -/
theorem MeetsViolation.not_meetsFlaw (violated : analysis.MeetsViolation start (textLines bytes)) :
    ¬analysis.MeetsFlaw start (textLines bytes) := by
  intro flawed
  obtain ⟨fault, ended⟩ := result_of_meetsViolation violated
  obtain ⟨failure, otherwise⟩ := result_of_meetsFlaw flawed
  cases ended.symm.trans otherwise

end Analysis
end ShadowTaint
