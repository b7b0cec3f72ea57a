import ShadowTaint.Command.Run
import ShadowTaint.Command.Topics

/-!
# The command

Gathers what a run finds around it, and prints what the run says.
-/

namespace ShadowTaint
namespace Main

/-- The bytes of a file, if it can be read. -/
def readBytes? (path : String) : IO (Option (List UInt8)) := do
  try
    let bytes ← IO.FS.readBinFile path
    return some bytes.toList
  catch _ => return none

/-- The file opens for appending. -/
def opensForAppending (path : String) : IO Bool := do
  try
    let _ ← IO.FS.Handle.mk path .append
    return true
  catch _ => return false

/-- The entries of a block of bytes, each of which ends in a zero byte. -/
def entriesOnto (current : List UInt8) : List UInt8 -> List (List UInt8)
  | [] => []
  | byte :: rest =>
      if byte = 0 then current.reverse :: entriesOnto [] rest
      else entriesOnto (byte :: current) rest

/-- A variable, from its name and value with an equals sign between them. A name has at
least one character. -/
def ofEntry? : List Char -> Option (String × String)
  | [] => none
  | first :: rest =>
      match rest.dropWhile (· != '=') with
      | _ :: value =>
          some (String.ofList (first :: rest.takeWhile (· != '=')), String.ofList value)
      | [] => none

/-- The variables of the environment, if all of it is text. -/
def readEnvironment? : IO (Option (List (String × String))) := do
  let bytes ← readBytes? "/proc/self/environ"
  let entries := (entriesOnto [] (bytes.getD [])).mapM Utf8.decode?
  return entries.map fun entries => entries.filterMap ofEntry?

/-- The settings file. Its name may lack the ending. -/
def readSettings (environment : List (String × String)) : IO (Option (List UInt8)) := do
  let path := (environment.lookup "ARMTAINT_CONFIG").getD "config.toml"
  match ← readBytes? path with
  | some bytes => return some bytes
  | none => readBytes? (path ++ ".toml")

/-- What an invocation finds around it in a given environment. -/
def gather (invocation : Invocation) (environment : List (String × String)) :
    IO Surroundings := do
  let sources : Sources := ⟨← readSettings environment, environment⟩
  let opens ← match invocation.logFile? sources with
    | some path => opensForAppending path
    | none => pure true
  return ⟨sources, opens, ← readBytes? invocation.trace⟩

/-- What a run finds around it. It needs nothing unless it replays. Without an environment
that is text there is nothing to be found. -/
def surroundings? (arguments : List String) : IO (Option Surroundings) := do
  match Request.ofArguments? arguments with
  | some (.replay invocation) =>
      match ← readEnvironment? with
      | some environment => return some (← gather invocation environment)
      | none => return none
  | _ => return some ⟨⟨none, []⟩, true, none⟩

/-- Run the command and tell how it ended. -/
def perform (arguments : List String) : IO UInt32 := do
  match ← surroundings? arguments with
  | none =>
      IO.eprintln "the environment is not text"
      return 101
  | some surroundings =>
      let outcome := run arguments fun _ => surroundings
      IO.print (outcome.output Topic.text)
      match outcome.complaint? with
      | some complaint => IO.eprintln complaint
      | none => pure ()
      return outcome.status

end Main
end ShadowTaint

/-- Run the command. -/
def main (arguments : List String) : IO UInt32 := ShadowTaint.Main.perform arguments
