import ShadowTaint.Proofs.Config.Fields
import ShadowTaint.Proofs.Config.Files
import ShadowTaint.Proofs.Config.Variables

/-!
# Flat sources

Sources are flat at a section if the settings file holds the section without tables in it,
the variables of the environment set different keys of it, and everything else they say is
beside it. Flat sources can be laid over any defaults, unless the file is malformed.
-/

namespace ShadowTaint

namespace Sources

/-- The settings of the settings file. Without a file that holds text there are none, and a
malformed file has no settings at all. -/
def fileSettings? (sources : Sources) : Option Setting :=
  match sources.text? with
  | none => some (.table [])
  | some text => Toml.read? text

/-- The settings file is flat at a section, unless it is malformed, and so are the variables
of the environment. -/
structure IsFlat (sources : Sources) (wanted : String) : Prop where
  file : ∀ settings, sources.fileSettings? = some settings -> settings.IsFlat wanted
  environment : Environment.IsFlat sources.environment wanted

instance (sources : Sources) : DecidablePred sources.IsFlat := fun wanted =>
  decidable_of_iff
    ((∀ settings ∈ sources.fileSettings?, settings.IsFlat wanted) ∧
      Environment.IsFlat sources.environment wanted)
    ⟨fun both => ⟨both.1, both.2⟩, fun flat => ⟨flat.file, flat.environment⟩⟩

/-- The environment or the settings file has something under the name of a section. -/
def HasSection (sources : Sources) (name : String) : Prop :=
  Environment.HasSection sources.environment name ∨
    (sources.fileSettings?.bind fun file => file.get? name).isSome = true

instance (sources : Sources) (name : String) : Decidable (sources.HasSection name) :=
  inferInstanceAs (Decidable (_ ∨ _))

/-- The settings file is well formed, and has no scalar in the place of a section, unless
variables take that place. -/
def Offers (sources : Sources) (name : String) : Prop :=
  ∃ file, sources.fileSettings? = some file ∧
    (Environment.HasSection sources.environment name ∨ file.HasTable name ∨
      file.get? name = none)

/-- The setting under a key of a section: that of the environment, else that of the settings
file, else that of the defaults of the section. -/
def prevailing? {Config : Type} (sources : Sources) (wanted : Section Config) (key : String) :
    Option Setting :=
  ((Environment.value? sources.environment wanted.name key).or
    (sources.fileSettings?.bind fun file => file.within? wanted.name key)).or
    ((wanted.toSetting wanted.standard).get? key)

/-- Each field of a configuration is decoded from what prevails under its name. -/
def DecodeTo {Config : Type} (sources : Sources) (wanted : Section Config)
    (fields : List (ConfigField Config)) (config : Config) : Prop :=
  ∀ field ∈ fields,
    (sources.prevailing? wanted field.name).bind field.decode? = some (field.get config)

variable {sources : Sources} {file defaults : Setting} {wanted : String}

theorem isWritten_fileSettings? (wellFormed : sources.fileSettings? = some file) :
    file.IsWritten := by
  rw [fileSettings?] at wellFormed
  split at wellFormed
  · cases wellFormed
    exact Setting.isWritten_empty
  · exact Toml.isWritten_read? wellFormed

/-- Entries that are flat at a section make of it what they make of it as a table. The
settings before them need to agree on the section only. -/
theorem exists_assignKeys
    {entries : List (String × Setting)}
    {target other : Setting}
    (flat : ∀ entry ∈ entries, Setting.IsSection wanted entry ∨ Setting.IsElsewhere wanted entry)
    (same : target.get? wanted = other.get? wanted) :
    ∃ after, entries.foldlM (fun settings entry => settings.assignKey entry.1 entry.2) target =
        .ok after ∧
      after.get? wanted = (other.overlay entries).get? wanted := by
  induction entries generalizing target other with
  | nil =>
      refine ⟨target, rfl, ?_⟩
      rw [Setting.overlay]
      exact same
  | cons entry rest inductionHypothesis =>
      obtain ⟨entryFlat, restFlat⟩ := List.forall_mem_cons.1 flat
      obtain ⟨next, assigned, agrees⟩ : ∃ next, target.assignKey entry.1 entry.2 = .ok next ∧
          next.get? wanted = (other.assign entry.1 entry.2).get? wanted := by
        obtain own | elsewhere := entryFlat
        · rw [Setting.assignKey, own.single, Setting.assignPath, own.named]
          exact ⟨_, rfl, Setting.get?_assign_congr same wanted⟩
        · obtain ⟨next, assigned, kept⟩ :=
            Setting.exists_assignPath_beside elsewhere.beside entry.2 target
          refine ⟨next, assigned, ?_⟩
          rw [kept, same, Setting.get?_assign_of_ne elsewhere.different]
      rw [List.foldlM_cons, assigned, Setting.overlay]
      exact inductionHypothesis restFlat agrees

/-- A flat file makes of its section what it makes of it as a table. -/
theorem withFile_flat
    (flat : sources.IsFlat wanted)
    (wellFormed : sources.fileSettings? = some file) :
    ∃ after, sources.withFile defaults = .ok after ∧
      after.get? wanted = (defaults.overlay file.entries).get? wanted := by
  obtain ⟨after, laid, same⟩ : ∃ after, overlayFile defaults file = .ok after ∧
      after.get? wanted = (defaults.overlay file.entries).get? wanted :=
    exists_assignKeys (flat.file file wellFormed) rfl
  cases given : sources.text? with
  | none =>
      rw [fileSettings?, given] at wellFormed
      cases wellFormed
      refine ⟨defaults, by rw [withFile, given], ?_⟩
      rw [Setting.entries, Setting.overlay]
  | some text =>
      have read : Toml.read? text = some file := by rwa [fileSettings?, given] at wellFormed
      refine ⟨after, ?_, same⟩
      simp only [withFile, given, read]
      rw [laid]
      rfl

theorem settings_eq_error (malformed : sources.fileSettings? = none) :
    sources.settings defaults = .error (.failure Sources.malformed) := by
  cases given : sources.text? with
  | none =>
      rw [fileSettings?, given] at malformed
      cases malformed
  | some text =>
      have unread : Toml.read? text = none := by rwa [fileSettings?, given] at malformed
      simp only [settings, withFile, given, unread]
      rfl

/-- Flat sources can be laid over any defaults, unless the file is malformed. -/
theorem settings_flat
    (flat : sources.IsFlat wanted)
    (wellFormed : sources.fileSettings? = some file) :
    ∃ after, sources.settings defaults = .ok after ∧
      Environment.Overlaid sources.environment wanted (defaults.overlay file.entries) after := by
  obtain ⟨below, fileLaid, same⟩ : ∃ below, sources.withFile defaults = .ok below ∧
      below.get? wanted = (defaults.overlay file.entries).get? wanted :=
    withFile_flat flat wellFormed
  obtain ⟨after, laid, overlaid⟩ : ∃ after,
      Environment.overlay below sources.environment = .ok after ∧
        Environment.Overlaid sources.environment wanted below after :=
    Environment.overlay_flat flat.environment
  refine ⟨after, ?_, overlaid.congr same⟩
  rw [settings, fileLaid]
  change (Environment.overlay _ _).mapError Stop.fault = _
  rw [laid]
  rfl

end Sources

end ShadowTaint
