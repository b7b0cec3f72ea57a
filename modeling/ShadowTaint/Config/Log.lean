/-!
# Settings of the log

The log goes to the console and, if a file is named, also to that file. Each of
the two has a level, and the taint engine may have a level of its own.
-/

namespace ShadowTaint

/-- The settings of the log. -/
structure LogConfig where
  consoleLevel : String
  fileLevel : String
  /-- The file to which the log is appended. -/
  file : Option String
  /-- The level of the taint engine, where it differs. -/
  taintLevel : Option String
  deriving DecidableEq

namespace LogConfig

/-- Information on the console, and no file. -/
def standard : LogConfig where
  consoleLevel := "info"
  fileLevel := "info"
  file := none
  taintLevel := none

instance : Inhabited LogConfig := ⟨standard⟩

/-- What the messages of the taint engine are marked with. -/
def taintTarget : String := "armtaint_analysis::taint"

/-- The filter directives of an output that logs at a level. -/
def directives (config : LogConfig) (level : String) : String :=
  match config.taintLevel with
  | some taintLevel => level ++ "," ++ taintTarget ++ "=" ++ taintLevel
  | none => level

end LogConfig
end ShadowTaint
