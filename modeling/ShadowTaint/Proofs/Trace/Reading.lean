import Mathlib.Logic.Relation
import ShadowTaint.Proofs.Trace.Balances
import ShadowTaint.Proofs.Trace.Lines

/-!
# Replaying a text

Replaying a text applies the events on its lines, up to the first line that is not
readable. So a text can be cut behind any line and replayed in two parts, and lines that
say nothing can be put in anywhere, as can white space around a line: only the number of
a line that is not readable tells them from each other.
-/

namespace ShadowTaint

/-! ## Failures and counts -/

/-- The failure names the line. -/
theorem Failure.malformedLine_inj {first second : Nat} :
    Failure.malformedLine first = Failure.malformedLine second ↔ first = second := by
  constructor
  · intro same
    have texts : "line " ++ toString first = "line " ++ toString second := Failure.trace.inj same
    have chars := congrArg String.toList texts
    rw [String.toList_append, String.toList_append, List.append_cancel_left_eq,
      Nat.toString_eq_ofList_toDigits, Nat.toString_eq_ofList_toDigits, String.toList_ofList,
      String.toList_ofList] at chars
    rw [← Nat.ofDigitChars_ten_toDigits (n := first), chars, Nat.ofDigitChars_ten_toDigits]
  · exact congrArg _

namespace Replay

/-- Threads that are taken in are no events. -/
theorem events_statistics (replay : Replay) :
    replay.statistics.events = replay.counted.events := by
  rw [statistics, Statistics.foldl_takeIn]

theorem events_within
    {counts : Statistics -> Value -> Statistics}
    (keep : ∀ statistics value, (counts statistics value).events = statistics.events)
    (replay : Replay)
    (id : UInt32)
    (action : Focus -> Reached Fault Focus Value) :
    (replay.within id action counts).state.counted.events = replay.counted.events := by
  have begun : (replay.begin id).counted.events = replay.counted.events := by
    rw [begin_counted]
  rw [within_eq, ← begun]
  generalize action (replay.view id) = acted
  obtain ⟨focus, result⟩ := acted
  cases result with
  | ok value => exact keep _ value
  | error fault => rfl

end Replay

namespace Analysis

variable {analysis : Analysis}

/-- Every event is counted, also one that is stopped. -/
theorem events_apply (analysis : Analysis) (replay : Replay) (event : Event) :
    (analysis.apply replay event).state.counted.events = replay.counted.events + 1 := by
  cases event with
  | step id instr context =>
      exact Replay.events_within (fun _ outcome => by cases outcome <;> rfl) _ _ _
  | callEntry id number arguments =>
      exact Replay.events_within (fun _ disposition => by cases disposition <;> rfl) _ _ _
  | callReturn id call => exact Replay.events_within (fun _ _ => rfl) _ _ _
  | taint address length label? | untaint address length =>
      rw [apply, Replay.changeMemory]
      split <;> rfl
  | threadExit id =>
      rw [apply, Reached.done, Replay.endThread]
      split <;> rfl

theorem events_applyAll
    {replay next : Replay}
    {events : List Event}
    (ran : analysis.applyAll replay events = .done next ()) :
    next.statistics.events = replay.statistics.events + events.length := by
  rw [Replay.events_statistics, Replay.events_statistics]
  induction events generalizing replay with
  | nil =>
      cases ran
      rfl
  | cons event rest inductionHypothesis =>
      obtain ⟨middle, _, applied, restRan⟩ := Reached.andThen_eq_done_iff.1 ran
      have counted : middle.counted.events = replay.counted.events + 1 := by
        rw [← analysis.events_apply replay event, applied]
        rfl
      rw [inductionHypothesis restRan, counted, List.length_cons, Nat.add_assoc,
        Nat.add_comm 1]

end Analysis

/-! ## Lines in a row -/

open TraceText

/-- How a replay of lines ended, alone and behind other lines with events on them. The
kind of the outcome is the same; line numbers and counts differ by those before. -/
inductive Shifted (lines events : Nat) : Except Stop Nat → Except Stop Nat → Prop
  | ended (count : Nat) : Shifted lines events (.ok count) (.ok (events + count))
  | notText :
      Shifted lines events (.error (.failure .invalidText)) (.error (.failure .invalidText))
  | noEvent (number : Nat) :
      Shifted lines events (.error (.failure (.malformedLine number)))
        (.error (.failure (.malformedLine (lines + number))))
  | fault (cause : Fault) :
      Shifted lines events (.error (.fault cause)) (.error (.fault cause))

/-- Two replays reached the same state, and their outcomes are of the same kind. -/
structure RunsAlike (lines events : Nat) (alone behind : Reached Stop Replay Nat) : Prop where
  state : behind.state = alone.state
  outcome : Shifted lines events alone.result behind.result

theorem Shifted.trans
    {lines more events further : Nat}
    {first second third : Except Stop Nat}
    (shifted : Shifted lines events first second)
    (again : Shifted more further second third) :
    Shifted (more + lines) (further + events) first third := by
  generalize same : second = middle at again
  cases again with
  | ended count =>
      cases shifted <;> cases same
      rw [← Nat.add_assoc]
      exact .ended _
  | notText =>
      cases shifted <;> cases same
      exact .notText
  | noEvent number =>
      cases shifted with
      | noEvent earlier =>
          have equal := Failure.malformedLine_inj.1 (Stop.failure.inj (Except.error.inj same))
          rw [← equal, ← Nat.add_assoc]
          exact .noEvent _
      | ended | notText | fault => cases same
  | fault cause =>
      cases shifted <;> cases same
      exact .fault cause

namespace RunsAlike

variable {lines more events further : Nat} {first second third : Reached Stop Replay Nat}

theorem trans
    (alike : RunsAlike lines events first second)
    (again : RunsAlike more further second third) :
    RunsAlike (more + lines) (further + events) first third :=
  ⟨again.state.trans alike.state, alike.outcome.trans again.outcome⟩

end RunsAlike

namespace Analysis

variable {analysis : Analysis}

/-- Lines that are appended are replayed from where the others led to. -/
theorem replayLines_append
    (analysis : Analysis)
    (replay : Replay)
    (number applied : Nat)
    (first second : List (List UInt8)) :
    analysis.replayLines replay number applied (first ++ second) =
      (analysis.replayLines replay number applied first).andThen fun next count =>
        analysis.replayLines next (number + first.length) count second := by
  induction first generalizing replay number applied with
  | nil => rfl
  | cons line rest inductionHypothesis =>
      have later : number + 1 + rest.length = number + (line :: rest).length := by
        rw [List.length_cons, Nat.add_right_comm, Nat.add_assoc]
      rw [List.cons_append, replayLines, replayLines]
      cases readLine number line with
      | error failure => rfl
      | ok event? =>
          cases event? with
          | none =>
              rw [← later]
              exact inductionHypothesis replay (number + 1) applied
          | some event =>
              dsimp only
              rw [← later]
              generalize analysis.apply replay event = reached
              obtain ⟨next, result⟩ := reached
              cases result with
              | ok => exact inductionHypothesis next (number + 1) (applied + 1)
              | error fault => rfl

/-- The numbers that a replay starts with show in its outcome only. -/
theorem replayLines_alike
    (analysis : Analysis)
    (replay : Replay)
    (lines events number applied : Nat)
    (rest : List (List UInt8)) :
    RunsAlike lines events
      (analysis.replayLines replay number applied rest)
      (analysis.replayLines replay (lines + number) (events + applied) rest) := by
  induction rest generalizing replay number applied with
  | nil => exact ⟨rfl, .ended applied⟩
  | cons line rest inductionHypothesis =>
      rw [replayLines, replayLines]
      by_cases readable : Readable line
      · rw [readLine_of_readable number readable, readLine_of_readable _ readable]
        cases event? line with
        | none => exact inductionHypothesis replay (number + 1) applied
        | some event =>
            dsimp only
            generalize analysis.apply replay event = reached
            obtain ⟨next, result⟩ := reached
            cases result with
            | ok => exact inductionHypothesis next (number + 1) (applied + 1)
            | error fault => exact ⟨rfl, .fault fault⟩
      · rw [readLine_of_not_readable number readable, readLine_of_not_readable _ readable,
          flaw, flaw]
        cases Utf8.decode? line with
        | none => exact ⟨rfl, .notText⟩
        | some text => exact ⟨rfl, .noEvent number⟩

/-- Lines with the same texts are replayed in the same way. -/
theorem replayLines_congr
    (replay : Replay)
    (number applied : Nat)
    {first second : List (List UInt8)}
    (same : first.map lineText? = second.map lineText?) :
    analysis.replayLines replay number applied first =
      analysis.replayLines replay number applied second := by
  induction first generalizing second replay number applied with
  | nil =>
      rw [List.map_nil, eq_comm, List.map_eq_nil_iff] at same
      rw [same]
  | cons line rest inductionHypothesis =>
      obtain ⟨other, others, rfl, sameText, sameRest⟩ := List.map_eq_cons_iff.1 same.symm
      have here : analysis.replayLines replay number applied [line] =
          analysis.replayLines replay number applied [other] := by
        rw [replayLines, readLine_congr number sameText.symm]
        rfl
      rw [← List.singleton_append, ← List.singleton_append (l := others), replayLines_append,
        replayLines_append, here]
      congr 1
      funext next count
      exact inductionHypothesis next (number + 1) count sameRest.symm

/-- Readable lines apply the events on them. -/
theorem replayLines_readable
    {replay next : Replay}
    {before : List (List UInt8)}
    (readable : ∀ line ∈ before, Readable line)
    (ran : analysis.applyAll replay (events before) = .done next ())
    (number count : Nat) :
    analysis.replayLines replay number count before =
      .done next (count + (events before).length) := by
  induction before generalizing replay number count with
  | nil =>
      cases ran
      rfl
  | cons line rest inductionHypothesis =>
      have restReadable (other : List UInt8) (mem : other ∈ rest) : Readable other :=
        readable other (List.mem_cons_of_mem _ mem)
      rw [replayLines, readLine_of_readable number (readable line List.mem_cons_self)]
      rw [events, List.filterMap_cons] at ran ⊢
      cases said : event? line with
      | none =>
          rw [said] at ran
          exact inductionHypothesis restReadable ran (number + 1) count
      | some event =>
          rw [said] at ran
          obtain ⟨middle, _, applied, restRan⟩ := Reached.andThen_eq_done_iff.1 ran
          have counted : count + 1 + (events rest).length =
              count + (event :: List.filterMap event? rest).length := by
            rw [List.length_cons, Nat.add_right_comm]
            rfl
          dsimp only
          rw [applied, ← counted]
          exact inductionHypothesis restReadable restRan (number + 1) (count + 1)

/-- Lines that say nothing change nothing. -/
theorem replayLines_silent
    (replay : Replay)
    {lines : List (List UInt8)}
    (silent : ∀ line ∈ lines, Silent line)
    (number count : Nat) :
    analysis.replayLines replay number count lines = .done replay count := by
  have nothing : events lines = [] :=
    List.filterMap_eq_nil_iff.2 fun line mem => (silent line mem).event?_eq_none
  have ran : analysis.applyAll replay (events lines) = .done replay () := by
    rw [nothing, applyAll_nil]
  rw [replayLines_readable (fun line mem => .inl (silent line mem)) ran, nothing]
  rfl

end Analysis

/-! ## Putting in what says nothing -/

namespace TraceText

/-- What stands behind a line: nothing, or the end of the line and the lines that follow. -/
def EndsLine (after : List UInt8) : Prop :=
  after = [] ∨ ∃ rest, after = 10 :: rest ∨ after = 13 :: 10 :: rest

/-- White space that does not end a line. -/
def IsGap (blanks : List Char) : Prop := ∀ char ∈ blanks, Blank.isBlank char ∧ char ≠ '\n'

/-- The second file is the first with one thing put in that says nothing: a line, a last
line that no line feed ends, or white space around a line. -/
inductive Padded : List UInt8 → List UInt8 → Prop
  | line {before line : List UInt8} (whole : Whole before) (unbroken : 10 ∉ line)
      (silent : Silent line) (after : List UInt8) :
      Padded (before ++ after) (before ++ line ++ 10 :: after)
  | lastLine {line : List UInt8} (before : List UInt8) (unbroken : 10 ∉ line)
      (silent : Silent line) :
      Padded before (before ++ 10 :: line)
  | gaps {before line after : List UInt8} {left right : List Char} (whole : Whole before)
      (unbroken : 10 ∉ line) (ends : EndsLine after) (leftGap : IsGap left)
      (rightGap : IsGap right) :
      Padded (before ++ line ++ after)
        (before ++ (Utf8.encode (String.ofList left) ++ line ++
          Utf8.encode (String.ofList right)) ++ after)

theorem silent_nil : Silent [] := by
  refine ⟨[], ?_, rfl⟩
  have decoded := Utf8.decode?_encode []
  rw [String.ofList_nil, Utf8.encode_empty] at decoded
  rw [lineText?, decoded]
  rfl

/-- The only line there may be in a piece that holds no line feed. -/
theorem silent_of_mem_lines
    {line : List UInt8}
    (unbroken : 10 ∉ line)
    (silent : Silent line) :
    ∀ other ∈ lines line, Silent other := by
  intro other mem
  rw [lines_unbroken unbroken] at mem
  split at mem
  · cases mem
  · rw [List.mem_singleton.1 mem]
    exact silent

/-- The pieces of a file are its lines, but for a last piece with nothing in it. -/
theorem splitOn_eq_lines (bytes : List UInt8) :
    ∃ silent, bytes.splitOn 10 = lines bytes ++ silent ∧ ∀ line ∈ silent, Silent line := by
  obtain ⟨before, last, pieces⟩ : ∃ before last, bytes.splitOn 10 = before ++ [last] :=
    ⟨_, _, (List.dropLast_append_getLast (List.splitOn_ne_nil 10 bytes)).symm⟩
  rw [lines_eq_ofPieces, pieces, ofPieces, List.dropLast_concat, List.getLast?_concat]
  cases last with
  | nil => exact ⟨[[]], by simp, by simpa using silent_nil⟩
  | cons byte rest => exact ⟨[], by simp, by simp⟩

/-- A line that has the text of another and stands in its place, or a line that says
nothing and stands where none was. -/
theorem lines_replaced
    {line other after : List UInt8}
    (unbroken : 10 ∉ line)
    (otherUnbroken : 10 ∉ other)
    (grown : other = [] → line = [])
    (sameText : lineText? other = lineText? line)
    (ends : EndsLine after) :
    ∃ silent rest others,
      lines (line ++ after) = rest ∧
      lines (other ++ after) = silent ++ others ∧
      (∀ line ∈ silent, Silent line) ∧
      others.map lineText? = rest.map lineText? := by
  obtain rfl | ⟨rest, rfl | rfl⟩ := ends
  · rw [List.append_nil, List.append_nil]
    cases line with
    | nil =>
        have silent : Silent other := by
          rw [Silent, sameText]
          exact silent_nil
        exact ⟨lines other, [], [], rfl, (List.append_nil _).symm,
          silent_of_mem_lines otherUnbroken silent, rfl⟩
    | cons byte line =>
        have some : ¬other.isEmpty = true := fun empty =>
          List.cons_ne_nil _ _ (grown (List.isEmpty_iff.1 empty))
        refine ⟨[], _, [other], rfl, ?_, List.forall_mem_nil _, ?_⟩
        · rw [lines_unbroken otherUnbroken, if_neg some, List.nil_append]
        · rw [lines_unbroken unbroken]
          exact congrArg (fun text => [text]) sameText
  · refine ⟨[], _, other :: lines rest, rfl, lines_line otherUnbroken rest,
      List.forall_mem_nil _, ?_⟩
    rw [lines_line unbroken, List.map_cons, List.map_cons, sameText]
  · -- The carriage return stays with the line, whose text it does not change.
    have broken {line : List UInt8} (unbroken : 10 ∉ line) :
        lines (line ++ 13 :: 10 :: rest) = (line ++ [13]) :: lines rest := by
      rw [List.append_cons, lines_line]
      simpa using unbroken
    have sameEnded : lineText? (other ++ [13]) = lineText? (line ++ [13]) := by
      rw [lineText?_return, lineText?_return, sameText]
    refine ⟨[], _, (other ++ [13]) :: lines rest, rfl, broken otherUnbroken,
      List.forall_mem_nil _, ?_⟩
    rw [broken unbroken, List.map_cons, List.map_cons, sameEnded]

/-- Padding puts lines in that say nothing, and leaves the texts of the others as they are. -/
theorem Padded.lines
    {first second : List UInt8}
    (padded : Padded first second) :
    ∃ before silent after others,
      TraceText.lines first = before ++ after ∧
      TraceText.lines second = before ++ (silent ++ others) ∧
      (∀ line ∈ silent, Silent line) ∧
      others.map lineText? = after.map lineText? := by
  cases padded with
  | line whole unbroken silent after =>
      refine ⟨_, [_], _, _, whole.lines_append after, ?_, by simpa using silent, rfl⟩
      rw [List.append_assoc, whole.lines_append, lines_line unbroken, List.singleton_append]
  | @lastLine line before unbroken silent =>
      obtain ⟨more, pieces, moreSilent⟩ := splitOn_eq_lines first
      refine ⟨TraceText.lines first, more ++ TraceText.lines line, [], [],
        (List.append_nil _).symm, ?_, ?_, rfl⟩
      · rw [lines_append_feed, pieces, List.append_nil, List.append_assoc]
      · intro other mem
        obtain mem | mem := List.mem_append.1 mem
        · exact moreSilent other mem
        · exact silent_of_mem_lines unbroken silent other mem
  | @gaps before line after left right whole unbroken ends leftGap rightGap =>
      have sameText : lineText? (Utf8.encode (String.ofList left) ++ line ++
          Utf8.encode (String.ofList right)) = lineText? line :=
        lineText?_framed (fun char mem => (leftGap char mem).1) line
          fun char mem => (rightGap char mem).1
      have framedUnbroken : 10 ∉ Utf8.encode (String.ofList left) ++ line ++
          Utf8.encode (String.ofList right) := by
        rw [List.mem_append, List.mem_append, not_or, not_or]
        exact ⟨⟨Utf8.lineFeed_notMem_encode fun char mem => (leftGap char mem).2, unbroken⟩,
          Utf8.lineFeed_notMem_encode fun char mem => (rightGap char mem).2⟩
      have grown : Utf8.encode (String.ofList left) ++ line ++
          Utf8.encode (String.ofList right) = [] → line = [] := by
        rw [List.append_eq_nil_iff, List.append_eq_nil_iff]
        exact fun empty => empty.1.2
      generalize Utf8.encode (String.ofList left) ++ line ++
        Utf8.encode (String.ofList right) = framed at sameText framedUnbroken grown ⊢
      obtain ⟨silent, rest, others, firstLines, secondLines, quiet, sameTexts⟩ :=
        lines_replaced unbroken framedUnbroken grown sameText ends
      refine ⟨TraceText.lines before, silent, rest, others, ?_, ?_, quiet, sameTexts⟩
      · rw [List.append_assoc, whole.lines_append, firstLines]
      · rw [List.append_assoc, whole.lines_append, secondLines]

end TraceText

namespace Analysis

/-- Padding a file leaves the result of its replay as it is, but for the number of a line. -/
theorem replay_padded
    (analysis : Analysis)
    (replay : Replay)
    {first second : List UInt8}
    (padded : Padded first second) :
    ∃ added, RunsAlike added 0 (analysis.replay replay first) (analysis.replay replay second) := by
  obtain ⟨before, silent, after, others, firstLines, secondLines, quiet, sameTexts⟩ := padded.lines
  rw [Analysis.replay, Analysis.replay, firstLines, secondLines, replayLines_append,
    replayLines_append]
  generalize start : analysis.replayLines replay 1 0 before = reached
  obtain ⟨next, result⟩ := reached
  cases result with
  | ok count =>
      have later : 1 + before.length + silent.length = silent.length + (1 + before.length) :=
        Nat.add_comm _ _
      refine ⟨silent.length, ?_⟩
      show RunsAlike _ _ (analysis.replayLines next _ count after)
        (analysis.replayLines next _ count (silent ++ others))
      have alike := analysis.replayLines_alike next silent.length 0 (1 + before.length) count after
      rw [replayLines_append, replayLines_silent next quiet, Reached.andThen_done, later,
        replayLines_congr next _ count sameTexts]
      rwa [Nat.zero_add] at alike
  | error stop =>
      refine ⟨0, ?_⟩
      have same := analysis.replayLines_alike replay 0 0 1 0 before
      rw [Nat.zero_add, Nat.zero_add, start] at same
      exact same

/-- A carriage return that stays in a line makes no difference. -/
theorem replay_eq_replayLines (analysis : Analysis) (replay : Replay) (bytes : List UInt8) :
    analysis.replay replay bytes = analysis.replayLines replay 1 0 (textLines bytes) :=
  replayLines_congr replay 1 0 (map_lineText?_textLines bytes).symm

/-- Whole lines that are replayed to their end can be replayed before those that follow. -/
theorem replay_append
    {analysis : Analysis}
    {replay next : Replay}
    {bytes : List UInt8}
    {count : Nat}
    (whole : Whole bytes)
    (ran : analysis.replay replay bytes = .done next count)
    (more : List UInt8) :
    RunsAlike (textLines bytes).length count
      (analysis.replay next more) (analysis.replay replay (bytes ++ more)) := by
  have length : (lines bytes).length = (textLines bytes).length := by
    have same := congrArg List.length (map_lineText?_textLines bytes)
    rwa [List.length_map, List.length_map, eq_comm] at same
  have alike := analysis.replayLines_alike next (lines bytes).length count 1 0 (lines more)
  rw [Analysis.replay] at ran
  rw [Analysis.replay, Analysis.replay, whole.lines_append, replayLines_append, ran,
    Reached.andThen_done, ← length, Nat.add_comm 1]
  exact alike

/-- Replaying a text applies the events on its lines in order and answers with their number;
the first line that is no text, or neither an event nor blank nor a comment, ends it with
its number in the failure and with the events before it applied. So a text can be replayed
in parts, and what says nothing can be put in anywhere. -/
theorem replay_reads_up_to_flaw
    (analysis : Analysis)
    (replay : Replay)
    (bytes : List UInt8) :
    (∀ next,
      (∀ line ∈ textLines bytes, Readable line) →
      analysis.applyAll replay (events (textLines bytes)) = .done next () →
      analysis.replay replay bytes = .done next (events (textLines bytes)).length ∧
        next.statistics.events =
          replay.statistics.events + (events (textLines bytes)).length) ∧
    (∀ before bad after next,
      textLines bytes = before ++ bad :: after →
      (∀ line ∈ before, Readable line) →
      ¬Readable bad →
      analysis.applyAll replay (events before) = .done next () →
      analysis.replay replay bytes = .stopped next (.failure (flaw (before.length + 1) bad))) ∧
    (∀ more next count,
      Whole bytes →
      analysis.replay replay bytes = .done next count →
      RunsAlike (textLines bytes).length count
        (analysis.replay next more) (analysis.replay replay (bytes ++ more))) ∧
    (∀ padded,
      Relation.ReflTransGen Padded bytes padded →
      ∃ added,
        RunsAlike added 0 (analysis.replay replay bytes) (analysis.replay replay padded)) := by
  refine ⟨?readable, ?flawed, ?parts, ?padded⟩
  case readable =>
    intro next readable ran
    refine ⟨?_, events_applyAll ran⟩
    rw [replay_eq_replayLines, replayLines_readable readable ran, Nat.zero_add]
  case flawed =>
    intro before bad after next lines readable unreadable ran
    rw [replay_eq_replayLines, lines, replayLines_append, replayLines_readable readable ran,
      Reached.andThen_done, replayLines, readLine_of_not_readable _ unreadable, Nat.add_comm 1]
  case parts =>
    intro more next count whole ran
    exact replay_append whole ran more
  case padded =>
    intro padded steps
    induction steps with
    | refl =>
        refine ⟨0, ?_⟩
        have alike := analysis.replayLines_alike replay 0 0 1 0 (lines bytes)
        rwa [Nat.zero_add, Nat.zero_add] at alike
    | tail _ step inductionHypothesis =>
        obtain ⟨added, alike⟩ := inductionHypothesis
        obtain ⟨more, again⟩ := analysis.replay_padded replay step
        exact ⟨_, alike.trans again⟩

/-- A file with a comment, a blank line and an event before a line that is no event. -/
theorem replay_reads_up_to_flaw_nonsense :
    let file := Utf8.encode
      "# trace\r\n\n \x7b\"event\":\"thread_exit\",\"tid\":7\x7d\r\nnonsense\n# more"
    let analysis : Analysis := ⟨AnalysisConfig.standard, [], 1⟩
    let replay := Replay.start ⟨0, 16, #[none], by decide, by decide⟩
    analysis.replay replay file =
      .stopped (replay.countEvent.endThread 7) (.failure (.malformedLine 4)) := by
  intro file analysis replay
  let before : List (List UInt8) :=
    [Utf8.encode "# trace", [], Utf8.encode " \x7b\"event\":\"thread_exit\",\"tid\":7\x7d"]
  have lines : textLines file =
      before ++ Utf8.encode "nonsense" :: [Utf8.encode "# more"] := by decide +kernel
  have readable : ∀ line ∈ before, Readable line := by decide +kernel
  have unreadable : ¬Readable (Utf8.encode "nonsense") := by decide +kernel
  have said : events before = [.threadExit 7] := by decide +kernel
  have ran : analysis.applyAll replay (events before) =
      .done (replay.countEvent.endThread 7) () := by
    rw [said]
    rfl
  have stopped := (analysis.replay_reads_up_to_flaw replay file).2.1 _ _ _ _ lines readable
    unreadable ran
  have number : flaw (before.length + 1) (Utf8.encode "nonsense") = .malformedLine 4 := by
    decide +kernel
  rw [stopped, number]

end Analysis
end ShadowTaint
