import Mathlib.Data.List.DropRight
import ShadowTaint.Command.Run
import ShadowTaint.Proofs.Config.Sources
import ShadowTaint.Proofs.Text.Boundaries

/-!
# Setting up a run without a fault

What a run reads before its trace can be wrong in many ways, and it should then end with a
failure. A fault is left in two places: a key of the settings that goes to a position
before the start of a list or beyond its limit, and a directive of a log filter that
begins with a blank and holds characters of several bytes. Settings and filters without
such keys and directives end in no fault, whatever else they hold.
-/

namespace ShadowTaint

/-! ## Work without faults -/

namespace Stop

variable {Value Other Item : Type}

/-- Work ends with a value or with a failure. -/
def Faultless (work : Except Stop Value) : Prop := ∀ cause, work ≠ .error (.fault cause)

theorem faultless_ok (value : Value) : Faultless (.ok value) := fun _ => nofun

theorem faultless_failure (cause : Failure) :
    Faultless (.error (.failure cause) : Except Stop Value) := fun _ => nofun

theorem Faultless.bind
    {first : Except Stop Value}
    {next : Value -> Except Stop Other}
    (begins : Faultless first)
    (continues : ∀ value, first = .ok value -> Faultless (next value)) :
    Faultless (first >>= next) := by
  cases first with
  | ok value => exact continues value rfl
  | error stop =>
      intro cause faulted
      cases faulted
      exact begins cause rfl

theorem Faultless.orElse
    {first second : Except Stop Value}
    (firstWorks : Faultless first)
    (secondWorks : Faultless second) :
    Faultless (Stop.orElse first second) := by
  unfold Stop.orElse
  split
  · exact secondWorks
  · exact firstWorks

/-- Work that may only fault does not, if it ends with a value. -/
theorem faultless_mapError
    {work : Except Fault Value}
    (ends : ∃ value, work = .ok value) :
    Faultless (work.mapError .fault) := by
  obtain ⟨value, rfl⟩ := ends
  exact faultless_ok value

theorem faultless_forM
    {items : List Item}
    {check : Item -> Except Stop Unit}
    (each : ∀ item ∈ items, Faultless (check item)) :
    Faultless (items.forM check) := by
  induction items with
  | nil => exact faultless_ok ()
  | cons item rest inductionHypothesis =>
      refine Faultless.bind (each item List.mem_cons_self) fun _ _ => ?_
      exact inductionHypothesis fun other mem => each other (List.mem_cons_of_mem _ mem)

end Stop

open Stop

/-! ## Keys -/

theorem exists_foldlM
    {State Item : Type}
    {step : State -> Item -> Except Fault State}
    {items : List Item}
    (each : ∀ item ∈ items, ∀ state, ∃ next, step state item = .ok next)
    (start : State) :
    ∃ last, items.foldlM step start = .ok last := by
  induction items generalizing start with
  | nil => exact ⟨start, rfl⟩
  | cons item rest inductionHypothesis =>
      obtain ⟨next, stepped⟩ := each item List.mem_cons_self start
      rw [List.foldlM_cons, stepped]
      exact inductionHypothesis (fun other mem => each other (List.mem_cons_of_mem _ mem)) next

namespace Sources

/-- No key of the settings file or of the environment leaves a list. -/
structure IsForward (sources : Sources) : Prop where
  file : ∀ settings, sources.fileSettings? = some settings ->
    ∀ entry ∈ settings.entries, SettingKey.IsForward entry.1
  environment : ∀ entry ∈ sources.environment,
    ∀ key, Environment.key? entry.1 = some key -> SettingKey.IsForward key

variable {sources : Sources}

theorem faultless_withFile (forward : sources.IsForward) (defaults : Setting) :
    Faultless (sources.withFile defaults) := by
  cases given : sources.text? with
  | none =>
      rw [withFile, given]
      exact faultless_ok defaults
  | some text =>
      have settings : sources.fileSettings? = Toml.read? text := by rw [fileSettings?, given]
      cases read : Toml.read? text with
      | none =>
          simp only [withFile, given, read]
          exact faultless_failure _
      | some file =>
          simp only [withFile, given, read]
          apply faultless_mapError
          apply exists_foldlM
          intro entry mem before
          exact Setting.exists_assignPath (forward.file file (settings.trans read) entry mem) _ _

theorem faultless_settings (forward : sources.IsForward) (defaults : Setting) :
    Faultless (sources.settings defaults) := by
  refine (faultless_withFile forward defaults).bind fun settings _ => ?_
  apply faultless_mapError
  apply exists_foldlM
  intro entry mem before
  rw [Environment.assign]
  cases named : Environment.key? entry.1 with
  | none => exact ⟨before, rfl⟩
  | some key => exact Setting.exists_assignPath (forward.environment entry mem key named) _ _

end Sources

/-- What is under the name of a section can be read, or the load fails. -/
theorem Section.faultless_loadOrDefault
    {Config : Type}
    {sources : Sources}
    (forward : sources.IsForward)
    (wanted : Section Config) :
    Faultless (wanted.loadOrDefault sources) := by
  refine (Sources.faultless_settings forward _).bind fun settings _ => ?_
  rw [read]
  split
  · exact faultless_ok _
  · exact faultless_failure _

/-! ## Filters -/

namespace LogFilter

/-- A directive begins with no blank, or each of its characters is one byte. -/
def IsClean (directive : List Char) : Prop :=
  (∀ first, directive.head? = some first -> Blank.isBlank first = false) ∨
    ∀ char ∈ directive, char.utf8Size = 1

/-- All directives of a filter are clean. -/
def HasCleanDirectives (filter : String) : Prop :=
  ∀ directive ∈ directives filter, IsClean directive

theorem trim_isPrefix
    {directive : List Char}
    (solid : ∀ first, directive.head? = some first -> Blank.isBlank first = false) :
    Blank.trim directive <+: directive := by
  have whole : directive.dropWhile Blank.isBlank = directive := by
    cases directive with
    | nil => rfl
    | cons first rest => simp [solid first rfl]
  rw [Blank.trim, whole]
  exact List.rdropWhile_prefix _ directive

theorem length_trim_le (directive : List Char) :
    (Blank.trim directive).length ≤ directive.length := by
  rw [Blank.trim, List.length_reverse]
  refine (List.dropWhile_sublist _).length_le.trans ?_
  rw [List.length_reverse]
  exact (List.dropWhile_sublist _).length_le

theorem size_of_bytes {text : List Char} (bytes : ∀ char ∈ text, char.utf8Size = 1) :
    Utf8.size text = text.length := by
  induction text with
  | nil => rfl
  | cons char rest inductionHypothesis =>
      rw [List.forall_mem_cons] at bytes
      rw [Utf8.size_cons, bytes.1, inductionHypothesis bytes.2, List.length_cons, Nat.add_comm]

/-- A position in a clean directive without the blanks at its ends is one in the whole. -/
theorem IsClean.isBoundary
    {directive before : List Char}
    (clean : IsClean directive)
    (begins : before <+: Blank.trim directive) :
    Utf8.IsBoundary directive (Utf8.size before) := by
  obtain solid | bytes := clean
  · exact ⟨before, begins.trans (trim_isPrefix solid), rfl⟩
  · -- Every position up to the end of the directive is a boundary.
    have trimmed : ∀ char ∈ before, char ∈ directive := by
      intro char mem
      have inTrimmed := begins.subset mem
      rw [Blank.trim, List.mem_reverse] at inTrimmed
      have inRest := List.mem_reverse.1 ((List.dropWhile_sublist _).subset inTrimmed)
      exact (List.dropWhile_sublist _).subset inRest
    have inside : before.length ≤ directive.length :=
      begins.length_le.trans (length_trim_le directive)
    refine ⟨directive.take before.length, List.take_prefix _ _, ?_⟩
    rw [size_of_bytes fun char mem => bytes char (List.mem_of_mem_take mem),
      size_of_bytes fun char mem => bytes char (trimmed char mem), List.length_take,
      Nat.min_eq_left inside]

/-- The part of a directive that is being read begins behind some of what was read. -/
def Progress.BeginsIn (done : List Char) : Progress -> Prop
  | .span first | .field first | .level first =>
      ∃ before, before <+: done ∧ Utf8.size before = first
  | _ => True

variable {directive done : List Char} {progress : Progress}

theorem exists_cut
    (clean : IsClean directive)
    (begins : done <+: Blank.trim directive)
    {first : Nat}
    (started : ∃ before, before <+: done ∧ Utf8.size before = first) :
    ∃ part, cut directive first (Utf8.size done) = .ok part := by
  obtain ⟨before, part, rfl⟩ := started
  obtain ⟨found, sliced⟩ := Utf8.exists_slice (clean.isBoundary (part.trans begins))
    (clean.isBoundary begins) (Utf8.size_le_of_prefix part)
  exact ⟨found, by rw [cut, sliced]; rfl⟩

/-- Reading a character of a clean directive cuts it between characters. -/
theorem step_beginsIn
    (char : Char)
    (clean : IsClean directive)
    (begins : done <+: Blank.trim directive)
    (begun : progress.BeginsIn done) :
    Faultless (step directive progress (Utf8.size done) char) ∧
      ∀ next, step directive progress (Utf8.size done) char = .ok next ->
        next.BeginsIn (done ++ [char]) := by
  have start : ∃ before, before <+: done ∧ Utf8.size before = 0 := ⟨[], List.nil_prefix, rfl⟩
  have behind (byte : char.utf8Size = 1) :
      ∃ before, before <+: done ++ [char] ∧ Utf8.size before = Utf8.size done + 1 :=
    ⟨done ++ [char], List.prefix_rfl, by
      rw [Utf8.size_append, Utf8.size_cons, byte, Utf8.size_nil]⟩
  have still {first : Nat} (started : ∃ before, before <+: done ∧ Utf8.size before = first) :
      ∃ before, before <+: done ++ [char] ∧ Utf8.size before = first := by
    obtain ⟨before, part, sized⟩ := started
    exact ⟨before, part.trans (List.prefix_append _ _), sized⟩
  have goesOn {next : Progress} (begun : next.BeginsIn (done ++ [char])) :
      Faultless (.ok next) ∧
        ∀ other, Except.ok (ε := Stop) next = .ok other -> other.BeginsIn (done ++ [char]) :=
    ⟨faultless_ok next, by rintro _ ⟨⟩; exact begun⟩
  have refused {failure : Failure} :
      Faultless (.error (.failure failure) : Except Stop Progress) ∧
        ∀ other, Except.error (Stop.failure failure) = .ok other ->
          Progress.BeginsIn (done ++ [char]) other :=
    ⟨faultless_failure failure, nofun⟩
  cases progress with
  | start =>
      rw [step]
      split
      · next bracket => exact goesOn (behind (bracket ▸ rfl))
      · split
        · exact goesOn trivial
        · exact refused
  | levelOrTarget =>
      obtain ⟨part, found⟩ := exists_cut clean begins start
      rw [step, found]
      split
      · next equals => exact goesOn (behind (equals ▸ rfl))
      · split
        · next bracket => exact goesOn (behind (bracket ▸ rfl))
        · exact goesOn trivial
  | span first =>
      obtain ⟨part, found⟩ := exists_cut clean begins begun
      rw [step, found]
      split
      · exact goesOn trivial
      · split
        · next brace => exact goesOn (behind (brace ▸ rfl))
        · exact goesOn (still begun)
  | field first =>
      obtain ⟨part, found⟩ := exists_cut clean begins begun
      rw [step, found]
      split
      · show Faultless (if isField part then _ else _) ∧ ∀ _, (if isField part then _ else _) = _ → _
        split
        · exact goesOn trivial
        · exact refused
      · exact goesOn (still begun)
  | fields =>
      rw [step]
      split
      · exact goesOn trivial
      · exact refused
  | target =>
      rw [step]
      split
      · next equals => exact goesOn (behind (equals ▸ rfl))
      · exact refused
  | level first =>
      rw [step]
      exact goesOn (still begun)

theorem steps_beginsIn
    {rest : List Char}
    (clean : IsClean directive)
    (whole : done ++ rest = Blank.trim directive)
    (begun : progress.BeginsIn done) :
    Faultless (steps directive progress (Utf8.size done) rest) ∧
      ∀ last, steps directive progress (Utf8.size done) rest = .ok last ->
        last.BeginsIn (done ++ rest) := by
  induction rest generalizing done progress with
  | nil =>
      refine ⟨faultless_ok progress, ?_⟩
      rintro _ ⟨⟩
      rwa [List.append_nil]
  | cons char rest inductionHypothesis =>
      have further : done ++ [char] ++ rest = Blank.trim directive := by
        rw [← whole, List.append_assoc, List.singleton_append]
      have position : Utf8.size done + char.utf8Size = Utf8.size (done ++ [char]) := by
        rw [Utf8.size_append, Utf8.size_cons, Utf8.size_nil, Nat.add_zero]
      have begins : done <+: Blank.trim directive := ⟨char :: rest, whole⟩
      obtain ⟨stepWorks, stepBegins⟩ := step_beginsIn char clean begins begun
      rw [steps, position]
      cases stepped : step directive progress (Utf8.size done) char with
      | error stop =>
          rw [stepped] at stepWorks
          refine ⟨fun cause faulted => ?_, nofun⟩
          cases faulted
          exact stepWorks cause rfl
      | ok next =>
          have behind := inductionHypothesis further (stepBegins next stepped)
          rwa [List.append_assoc, List.singleton_append] at behind

theorem faultless_checkDirective (clean : IsClean directive) :
    Faultless (checkDirective directive) := by
  have start : Progress.start.BeginsIn [] := trivial
  obtain ⟨works, begins⟩ := steps_beginsIn clean (List.nil_append _) start
  refine works.bind fun last read => ?_
  have begun := begins last read
  unfold finish
  split
  · exact faultless_ok ()
  · exact faultless_ok ()
  · obtain ⟨before, part, rfl⟩ := begun
    obtain ⟨text, found⟩ := Utf8.exists_suffixFrom (clean.isBoundary part)
    rw [found]
    show Faultless (if text.isEmpty || isLevel text then _ else _)
    split
    · exact faultless_ok ()
    · exact faultless_failure _
  · exact faultless_failure _

theorem faultless_check {filter : String} (clean : HasCleanDirectives filter) :
    Faultless (check filter) :=
  faultless_forM fun directive mem => faultless_checkDirective (clean directive mem)

end LogFilter

/-! ## The log -/

namespace LogConfig

variable {config : LogConfig}

theorem faultless_checkFilter
    {environment : List (String × String)}
    {level : String}
    (override : ∀ filter, environment.lookup filterVariable = some filter ->
      LogFilter.HasCleanDirectives filter)
    (clean : LogFilter.HasCleanDirectives (config.directives level)) :
    Faultless (config.checkFilter environment level) := by
  have ofLevel := LogFilter.faultless_check clean
  rw [checkFilter]
  cases found : environment.lookup filterVariable with
  | none => exact ofLevel
  | some filter => exact (LogFilter.faultless_check (override filter found)).orElse ofLevel

/-- Every filter that the log may use has clean directives. -/
structure HasCleanFilters (config : LogConfig) (environment : List (String × String)) :
    Prop where
  override : ∀ filter, environment.lookup filterVariable = some filter ->
    LogFilter.HasCleanDirectives filter
  console : LogFilter.HasCleanDirectives (config.directives config.consoleLevel)
  file : LogFilter.HasCleanDirectives (config.directives config.fileLevel)

theorem faultless_check
    {surroundings : Surroundings}
    (clean : config.HasCleanFilters surroundings.sources.environment) :
    Faultless (config.check surroundings) := by
  refine (faultless_checkFilter clean.override clean.console).bind fun _ _ => ?_
  cases config.file with
  | none => exact faultless_ok ()
  | some path =>
      dsimp only
      split
      · exact faultless_checkFilter clean.override clean.file
      · exact faultless_failure _

end LogConfig
end ShadowTaint
