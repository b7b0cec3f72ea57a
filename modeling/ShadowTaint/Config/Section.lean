import ShadowTaint.Config.Environment
import ShadowTaint.Config.Toml.Document
import ShadowTaint.Stop
import ShadowTaint.Text.Utf8

/-!
# Sections

A program reads its settings by sections. The value of a setting comes from the
environment, else from the settings file, else from the defaults of its section.
A section may be loaded so that at least one source has to have it, or so that
its defaults count as a source.
-/

namespace ShadowTaint

/-- Where settings come from. -/
structure Sources where
  /-- The bytes of the settings file, if there is one. -/
  file : Option (List UInt8)
  /-- The variables of the environment. Of two that set the same key the later one
  prevails. Others are laid over the settings in order too, though a program that keeps
  them by their keys goes through them in an order of its own. -/
  environment : List (String × String)

/-- A section: its name, its defaults, and how it is written as a table and read from
one. -/
structure Section (Config : Type) where
  name : String
  standard : Config
  toSetting : Config -> Setting
  ofSetting? : Setting -> Option Config

namespace Sources

/-- The text of the settings file. A file that holds no text is like none. -/
def text? (sources : Sources) : Option (List Char) := sources.file.bind Utf8.decode?

/-- Lay the settings of a file over others, name by name. -/
def overlayFile (settings : Setting) (file : Setting) : Except Fault Setting :=
  file.entries.foldlM (fun settings entry => settings.assignKey entry.1 entry.2) settings

/-- The settings file cannot be read. -/
def malformed : Failure := .config "malformed settings file"

/-- Lay the settings file over defaults, if there is one. It may be absent, but not
malformed. -/
def withFile (sources : Sources) (defaults : Setting) : Except Stop Setting :=
  match sources.text? with
  | none => .ok defaults
  | some text =>
      match Toml.read? text with
      | none => .error (.failure malformed)
      | some file => (overlayFile defaults file).mapError .fault

/-- Lay all sources over defaults. -/
def settings (sources : Sources) (defaults : Setting) : Except Stop Setting := do
  let settings ← sources.withFile defaults
  (Environment.overlay settings sources.environment).mapError .fault

end Sources

namespace Section

variable {Config : Type}

/-- The section could not be loaded. -/
def failure (wanted : Section Config) (reason : String) : Stop :=
  .failure (.config ("section " ++ wanted.name ++ ": " ++ reason))

/-- The names of the settings of the section, in order. -/
def names (wanted : Section Config) : List String :=
  (wanted.toSetting wanted.standard).entries.map Prod.fst

/-- Read the section from a setting. -/
def read (wanted : Section Config) (found : Setting) : Except Stop Config :=
  match (found.named? wanted.names).bind wanted.ofSetting? with
  | some config => .ok config
  | none => .error (wanted.failure "unusable value")

/-- Load a section that has to be in some source. Settings that it leaves out
have their defaults. -/
def load (wanted : Section Config) (sources : Sources) : Except Stop Config := do
  let settings ← sources.settings (.table [])
  match settings.get? wanted.name with
  | some found => wanted.read found
  | none => .error (wanted.failure "not found")

/-- Load a section, with defaults for whatever is missing. -/
def loadOrDefault (wanted : Section Config) (sources : Sources) : Except Stop Config := do
  let settings ← sources.settings (.table [(wanted.name, wanted.toSetting wanted.standard)])
  wanted.read ((settings.get? wanted.name).getD .absent)

/-- Load a section, with defaults for whatever is missing, from a file that has to
be there and hold text. -/
def loadFromFile (wanted : Section Config) (sources : Sources) : Except Stop Config :=
  if sources.text?.isSome then wanted.loadOrDefault sources
  else .error (wanted.failure "no settings file")

/-- For a caller that cannot do without the section, a failure is a fault. -/
def require (wanted : Section Config) (loaded : Except Stop Config) : Except Fault Config :=
  loaded.mapError fun stop =>
    match stop with
    | .fault fault => fault
    | .failure _ => .configSection wanted.name

end Section
end ShadowTaint
