import ShadowTaint.Number.Whole

/-!
# Invocations

A command line names one trace file and options. A long option is a name behind
two dashes, and its value is the next argument or follows an equals sign. A
short option is a letter behind one dash; flags may share the dash, and the
value of the last letter follows directly, behind an equals sign, or as the next
argument. An argument that starts with a dash is no value, except a dash alone.
Behind two dashes alone, every argument is a file.

Only the option for sources may be given more than once. Whatever is wrong with
a command line, it is a usage error.

A command line may also ask for help or for the version. What comes behind that does
not matter, and what is wrong before it does.
-/

namespace ShadowTaint

/-- What a command can tell about itself. -/
inductive Topic
  | help | version
  deriving DecidableEq

/-- A replay that a command line asks for. -/
structure Invocation where
  /-- The path of the trace file. -/
  trace : String
  /-- The level of the console. -/
  level : Option String
  /-- The level of the taint engine. -/
  taintLevel : Option String
  /-- The numbers of the system calls that are sources. -/
  sources : List UInt32
  /-- The label of data from sources. -/
  label : Option UInt8
  /-- The report is indented. -/
  pretty : Bool
  deriving DecidableEq

/-- What a command line asks for. -/
inductive Request
  | tell (topic : Topic)
  | replay (invocation : Invocation)
  deriving DecidableEq

/-- The options of a command line. -/
inductive Choice
  | level | taintLevel | source | label | pretty
  /-- A topic to be told about. -/
  | topic (topic : Topic)
  deriving DecidableEq

namespace Choice

/-- The option with a long name. -/
def ofName? (name : List Char) : Option Choice :=
  match String.ofList name with
  | "level" => some level
  | "taint-level" => some taintLevel
  | "taint-syscall" => some source
  | "label" => some label
  | "pretty" => some pretty
  | "help" => some (topic .help)
  | "version" => some (topic .version)
  | _ => none

/-- The option with a letter. -/
def ofLetter? : Char -> Option Choice
  | 'l' => some level
  | 's' => some source
  | 'p' => some pretty
  | 'h' => some (topic .help)
  | 'V' => some (topic .version)
  | _ => none

end Choice

/-- An argument of a command line. -/
inductive Argument
  /-- Two dashes alone. -/
  | separator
  /-- A long option, and the value behind its equals sign. -/
  | long (name : List Char) (value : Option (List Char))
  /-- Letters behind a dash. -/
  | short (letters : List Char)
  /-- A file, or the value of an option. -/
  | plain (text : List Char)

namespace Argument

/-- The argument that a text is. -/
def ofText : List Char -> Argument
  | ['-', '-'] => separator
  | '-' :: '-' :: text =>
      match text.dropWhile (· != '=') with
      | _ :: value => long (text.takeWhile (· != '=')) (some value)
      | [] => long text none
  | '-' :: letter :: rest => short (letter :: rest)
  | text => plain text

end Argument

namespace Invocation

/-- A command line that has been read in part. -/
structure Draft where
  trace : Option String
  level : Option String
  taintLevel : Option String
  /-- The sources so far, in reverse. -/
  sources : List UInt32
  label : Option UInt8
  pretty : Bool
  /-- The option whose value has to come next. -/
  waiting : Option Choice
  /-- Every argument from here on is a file. -/
  onlyFiles : Bool
  /-- What was asked for instead of a replay. Nothing is read any more. -/
  topic : Option Topic

namespace Draft

/-- Nothing has been read. -/
def empty : Draft where
  trace := none
  level := none
  taintLevel := none
  sources := []
  label := none
  pretty := false
  waiting := none
  onlyFiles := false
  topic := none

/-- A number below a bound. -/
def below? (bound : Nat) (text : List Char) : Option Nat :=
  match Whole.word? text with
  | some value => if 0 ≤ value ∧ value < bound then some value.toNat else none
  | none => none

/-- A file is named. There is only one, and its name is not empty. -/
def file? (draft : Draft) (text : List Char) : Option Draft :=
  if draft.trace.isSome || text.isEmpty then none
  else some { draft with trace := some (String.ofList text) }

/-- An option has a value. -/
def give? (draft : Draft) (choice : Choice) (value : List Char) : Option Draft :=
  match choice with
  | .level =>
      if draft.level.isSome then none
      else some { draft with level := some (String.ofList value) }
  | .taintLevel =>
      if draft.taintLevel.isSome then none
      else some { draft with taintLevel := some (String.ofList value) }
  | .source =>
      (below? UInt32.size value).map fun number =>
        { draft with sources := UInt32.ofNat number :: draft.sources }
  | .label =>
      if draft.label.isSome then none
      else (below? UInt8.size value).map fun number =>
        { draft with label := some (UInt8.ofNat number) }
  | .pretty | .topic _ => none

/-- An option is named without a value: a flag is raised, a topic ends the command line,
and any other option waits for its value. -/
def name? (draft : Draft) (choice : Choice) : Option Draft :=
  match choice with
  | .pretty => if draft.pretty then none else some { draft with pretty := true }
  | .topic topic => some { draft with topic := some topic }
  | choice => some { draft with waiting := some choice }

/-- Read letters behind a dash. -/
def letters? (draft : Draft) : List Char -> Option Draft
  | [] => some draft
  | letter :: rest =>
      match Choice.ofLetter? letter with
      | none => none
      | some .pretty => (draft.name? .pretty).bind fun draft => draft.letters? rest
      | some (.topic topic) => draft.name? (.topic topic)
      | some choice =>
          match rest with
          | [] => draft.name? choice
          | '=' :: value => draft.give? choice value
          | value => draft.give? choice value

/-- Read one argument. -/
def step? (draft : Draft) (argument : String) : Option Draft :=
  match draft.topic, draft.waiting with
  | some _, _ => some draft
  | none, some choice =>
      match Argument.ofText argument.toList with
      | .plain value => { draft with waiting := none }.give? choice value
      | _ => none
  | none, none =>
      if draft.onlyFiles then draft.file? argument.toList
      else
        match Argument.ofText argument.toList with
        | .separator => some { draft with onlyFiles := true }
        | .long name none => (Choice.ofName? name).bind draft.name?
        | .long name (some value) =>
            (Choice.ofName? name).bind fun choice => draft.give? choice value
        | .short letters => draft.letters? letters
        | .plain text => draft.file? text

/-- What a command line asks for that has been read to its end. -/
def finish? (draft : Draft) : Option Request :=
  match draft.topic, draft.waiting, draft.trace with
  | some topic, _, _ => some (.tell topic)
  | none, none, some trace =>
      some (.replay ⟨trace, draft.level, draft.taintLevel, draft.sources.reverse, draft.label,
        draft.pretty⟩)
  | _, _, _ => none

end Draft
end Invocation

/-- What arguments ask for, unless their use is wrong. -/
def Request.ofArguments? (arguments : List String) : Option Request :=
  (arguments.foldlM Invocation.Draft.step? Invocation.Draft.empty).bind
    Invocation.Draft.finish?

end ShadowTaint
