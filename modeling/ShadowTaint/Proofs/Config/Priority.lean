import ShadowTaint.Proofs.Config.Sources

/-!
# Sections are loaded by priority

Under sources that are flat at a section each field of it is decoded from the environment if
a variable names it, else from the settings file if it names it, else from the defaults of the
section, whatever the sources say about other fields. Loading a section with its defaults
for a source and without differ only if no other source has it.
-/

namespace ShadowTaint

namespace Section

variable {Config : Type} {wanted : Section Config} {fields : List (ConfigField Config)}
  {sources : Sources} {file defaults after : Setting} {config : Config}

/-- Settings that a section is laid over: none at all, or its own defaults. -/
inductive IsBase (wanted : Section Config) : Setting -> Prop
  | empty : IsBase wanted (.table [])
  | standard : IsBase wanted (.table [(wanted.name, wanted.toSetting wanted.standard)])

/-- Under a base, a key of the section has its default or nothing. -/
theorem IsBase.within? (base : wanted.IsBase defaults) (key : String) :
    defaults.within? wanted.name key = none ∨
      defaults.within? wanted.name key = (wanted.toSetting wanted.standard).get? key := by
  cases base with
  | empty => exact .inl rfl
  | standard =>
      right
      rw [Setting.within?, Setting.get?, Setting.entries, List.lookup_cons_self]
      rfl

theorem IsBase.isTable
    (base : wanted.IsBase defaults)
    (fieldwise : wanted.IsFieldwise fields)
    (value : Setting)
    (found : defaults.get? wanted.name = some value) :
    value.IsTable := by
  cases base with
  | empty => cases found
  | standard =>
      rw [Setting.get?, Setting.entries, List.lookup_cons_self] at found
      cases found
      obtain ⟨entries, table, -⟩ := fieldwise.standard
      exact ⟨entries, table⟩

/-- A field is decoded from what there is under its name, or else from its default. -/
theorem IsFieldwise.read?_eq
    (fieldwise : wanted.IsFieldwise fields)
    {field : ConfigField Config}
    (member : field ∈ fields)
    {found default : Option Setting}
    (base : default = none ∨ default = (wanted.toSetting wanted.standard).get? field.name) :
    field.read? wanted.standard (found.or default) =
      (found.or ((wanted.toSetting wanted.standard).get? field.name)).bind field.decode? := by
  obtain ⟨entries, table, standards⟩ := fieldwise.standard
  obtain ⟨value, named, decoded⟩ := standards field member
  have standard : (wanted.toSetting wanted.standard).get? field.name = some value := by
    rw [table]
    exact named
  rw [standard] at base ⊢
  cases found with
  | some value => rfl
  | none =>
      obtain rfl | rfl := base
      · exact decoded.symm
      · rfl

/-- A section that is a table is read field by field. -/
theorem read_table_eq_ok_iff
    (fieldwise : wanted.IsFieldwise fields)
    {entries : List (String × Setting)} :
    wanted.read (.table entries) = .ok config ↔
      ∀ field ∈ fields,
        field.read? wanted.standard (entries.lookup field.name) = some (field.get config) := by
  have named : (Setting.table entries).named? wanted.names = some (.table entries) := rfl
  rw [← fieldwise.read, read, named, Option.bind_some]
  cases wanted.ofSetting? (.table entries) with
  | none =>
      constructor <;>
      · intro same
        cases same
  | some found =>
      constructor <;>
      · intro same
        cases same
        rfl

/-- A scalar is no section. -/
theorem read_scalar {value : Setting} (scalar : value.IsScalar) :
    wanted.read value = .error (wanted.failure "unusable value") := by
  cases value with
  | table | list => exact scalar.elim
  | absent | boolean | integer | real | text => rfl

section Laid

variable (fieldwise : wanted.IsFieldwise fields) (base : wanted.IsBase defaults)
  (flat : file.IsFlat wanted.name) (written : file.IsWritten)

include fieldwise base flat written

/-- A key of a section that the file does not set has its default or nothing. -/
theorem within?_overlay (key : String) :
    ∃ default, (default = none ∨ default = (wanted.toSetting wanted.standard).get? key) ∧
      (defaults.overlay file.entries).within? wanted.name key =
        (file.within? wanted.name key).or default := by
  have once := written.namedOnce
  obtain unnamed | ⟨value, found, scalar⟩ | ⟨inner, found⟩ := flat.get?_cases
  · refine ⟨_, base.within? key, ?_⟩
    rw [Setting.within?, Setting.get?_overlay_of_none once unnamed, Setting.within?,
      Setting.within?, unnamed]
    rfl
  · -- The scalar takes the defaults with it; they come back when fields are decoded.
    refine ⟨none, .inl rfl, ?_⟩
    rw [Setting.within?, Setting.get?_overlay_of_scalar once found scalar, Setting.within?, found,
      Option.bind_some, scalar.get?_eq_none]
    rfl
  · refine ⟨_, base.within? key, ?_⟩
    obtain ⟨after, overlaid, keys⟩ :=
      Setting.get?_overlay_of_table flat once found (base.isTable fieldwise)
    rw [Setting.within?, overlaid, Setting.within?, found]
    exact keys key

/-- Behind a file there is a table for a section if the file has one, or if the base has one and
the file has nothing. -/
theorem hasTable_overlay_iff :
    (defaults.overlay file.entries).HasTable wanted.name ↔
      file.HasTable wanted.name ∨
        (file.get? wanted.name = none ∧ defaults.HasTable wanted.name) := by
  have once := written.namedOnce
  obtain unnamed | ⟨value, found, scalar⟩ | ⟨inner, found⟩ := flat.get?_cases
  · simp only [Setting.HasTable, Setting.get?_overlay_of_none once unnamed, unnamed]
    simp
  · simp only [Setting.HasTable, Setting.get?_overlay_of_scalar once found scalar, found]
    simp
  · obtain ⟨after, overlaid, -⟩ :=
      Setting.get?_overlay_of_table flat once found (base.isTable fieldwise)
    exact iff_of_true ⟨after, overlaid⟩ (.inl ⟨inner, found⟩)

/-- Behind a file a section is a table or a scalar, if it is there at all. -/
theorem isTable_or_isScalar_of_overlay :
    ∀ value, (defaults.overlay file.entries).get? wanted.name = some value ->
      value.IsTable ∨ value.IsScalar := by
  have once := written.namedOnce
  obtain unnamed | ⟨value, found, scalar⟩ | ⟨inner, found⟩ := flat.get?_cases
  · rw [Setting.get?_overlay_of_none once unnamed]
    exact fun value found => .inl (base.isTable fieldwise value found)
  · rw [Setting.get?_overlay_of_scalar once found scalar]
    rintro _ ⟨⟩
    exact .inr scalar
  · obtain ⟨after, overlaid, -⟩ :=
      Setting.get?_overlay_of_table flat once found (base.isTable fieldwise)
    rw [overlaid]
    rintro _ ⟨⟩
    exact .inl ⟨after, rfl⟩

section Variables

variable (wellFormed : sources.fileSettings? = some file)
  (overlaid : Environment.Overlaid sources.environment wanted.name
    (defaults.overlay file.entries) after)

include wellFormed overlaid

/-- A field of a section that is a table behind all sources is decoded from what prevails. -/
theorem read?_of_overlaid
    {entries : List (String × Setting)}
    (table : after.get? wanted.name = some (.table entries))
    {field : ConfigField Config}
    (member : field ∈ fields) :
    field.read? wanted.standard (entries.lookup field.name) =
      (sources.prevailing? wanted field.name).bind field.decode? := by
  obtain ⟨default, isBase, keys⟩ := within?_overlay fieldwise base flat written field.name
  have found := overlaid.within? field.name
  rw [keys, Setting.within?, table, Option.bind_some, ← Option.or_assoc] at found
  change entries.lookup field.name = _ at found
  rw [found, Sources.prevailing?, wellFormed]
  exact fieldwise.read?_eq member isBase

omit wellFormed in
/-- Behind all sources there is a table for a section if some source has one, and no scalar of
the file takes its place. -/
theorem hasTable_iff_of_overlaid :
    after.HasTable wanted.name ↔
      Environment.HasSection sources.environment wanted.name ∨ file.HasTable wanted.name ∨
        (file.get? wanted.name = none ∧ defaults.HasTable wanted.name) := by
  by_cases has : Environment.HasSection sources.environment wanted.name
  · exact iff_of_true (overlaid.hasTable has) (.inl has)
  · rw [or_iff_right has, ← hasTable_overlay_iff fieldwise base flat written, Setting.HasTable,
      overlaid.others has]
    rfl

omit wellFormed in
/-- What can be read behind all sources is a table. -/
theorem isTable_of_read
    {found : Setting}
    (named : after.get? wanted.name = some found)
    (read : wanted.read found = .ok config) :
    found.IsTable := by
  by_cases has : Environment.HasSection sources.environment wanted.name
  · obtain ⟨entries, table⟩ := overlaid.hasTable has
    exact ⟨entries, Option.some.inj (named.symm.trans table)⟩
  · rw [overlaid.others has] at named
    obtain table | scalar := isTable_or_isScalar_of_overlay fieldwise base flat written found named
    · exact table
    · rw [read_scalar scalar] at read
      cases read

/-- What is under the name of a section behind all sources can be read if it is a table and
what prevails can be decoded. -/
theorem exists_read_iff :
    (∃ found, after.get? wanted.name = some found ∧ wanted.read found = .ok config) ↔
      (Environment.HasSection sources.environment wanted.name ∨ file.HasTable wanted.name ∨
        (file.get? wanted.name = none ∧ defaults.HasTable wanted.name)) ∧
      sources.DecodeTo wanted fields config := by
  have tabled := hasTable_iff_of_overlaid fieldwise base flat written overlaid
  constructor
  · rintro ⟨found, named, read⟩
    obtain ⟨entries, rfl⟩ := isTable_of_read fieldwise base flat written overlaid named read
    rw [read_table_eq_ok_iff fieldwise] at read
    refine ⟨tabled.1 ⟨entries, named⟩, fun field member => ?_⟩
    rw [← read?_of_overlaid fieldwise base flat written wellFormed overlaid named member]
    exact read field member
  · rintro ⟨has, decoded⟩
    obtain ⟨entries, named⟩ := tabled.2 has
    refine ⟨_, named, (read_table_eq_ok_iff fieldwise).2 fun field member => ?_⟩
    rw [read?_of_overlaid fieldwise base flat written wellFormed overlaid named member]
    exact decoded field member

end Variables

end Laid

/-- A load from malformed sources fails. -/
theorem load_malformed (malformed : sources.fileSettings? = none) :
    wanted.load sources = .error (.failure Sources.malformed) ∧
      wanted.loadOrDefault sources = .error (.failure Sources.malformed) := by
  rw [load, loadOrDefault, Sources.settings_eq_error malformed, Sources.settings_eq_error malformed]
  exact ⟨rfl, rfl⟩

theorem load_of_settings (laid : sources.settings (.table []) = .ok after) :
    wanted.load sources =
      (after.get? wanted.name).elim (.error (wanted.failure "not found")) wanted.read := by
  rw [load, laid]
  change (pure after >>= _) = _
  rw [pure_bind]
  cases after.get? wanted.name <;> rfl

theorem loadOrDefault_of_settings
    (laid : sources.settings
      (.table [(wanted.name, wanted.toSetting wanted.standard)]) = .ok after) :
    wanted.loadOrDefault sources =
      (after.get? wanted.name).elim (.error (wanted.failure "unusable value")) wanted.read := by
  rw [loadOrDefault, laid]
  change wanted.read ((after.get? wanted.name).getD .absent) = _
  cases after.get? wanted.name <;> rfl

theorem elim_read_eq_ok_iff {found : Option Setting} {stop : Stop} :
    found.elim (.error stop) wanted.read = .ok config ↔
      ∃ value, found = some value ∧ wanted.read value = .ok config := by
  cases found with
  | none =>
      constructor
      · intro same
        cases same
      · rintro ⟨_, same, -⟩
        cases same
  | some value => simp

/-- What goes wrong with a section is a complaint about the configuration. -/
theorem elim_read_eq_error
    {found : Option Setting}
    {reason : String}
    {stop : Stop}
    (failed : found.elim (.error (wanted.failure reason)) wanted.read = .error stop) :
    ∃ detail, stop = .failure (.config detail) := by
  cases found with
  | none =>
      cases failed
      exact ⟨_, rfl⟩
  | some value =>
      rw [Option.elim_some, read] at failed
      split at failed
      · cases failed
      · cases failed
        exact ⟨_, rfl⟩

/-- A load from flat sources fails with a complaint about the configuration. -/
theorem load_eq_error
    {stop : Stop}
    (flat : sources.IsFlat wanted.name)
    (failed : wanted.load sources = .error stop ∨ wanted.loadOrDefault sources = .error stop) :
    ∃ detail, stop = .failure (.config detail) := by
  cases wellFormed : sources.fileSettings? with
  | none =>
      rw [(load_malformed wellFormed).1, (load_malformed wellFormed).2, or_self] at failed
      cases failed
      exact ⟨_, rfl⟩
  | some file =>
      obtain failed | failed := failed
      · obtain ⟨after, laid, -⟩ := Sources.settings_flat flat wellFormed
        rw [load_of_settings laid] at failed
        exact elim_read_eq_error failed
      · obtain ⟨after, laid, -⟩ := Sources.settings_flat flat wellFormed
        rw [loadOrDefault_of_settings laid] at failed
        exact elim_read_eq_error failed

/-- A section can be loaded if some source has a table for it and what prevails can be
decoded. -/
theorem load_eq_ok_iff (fieldwise : wanted.IsFieldwise fields) (flat : sources.IsFlat wanted.name) :
    wanted.load sources = .ok config ↔
      (∃ file, sources.fileSettings? = some file ∧
        (Environment.HasSection sources.environment wanted.name ∨ file.HasTable wanted.name)) ∧
      sources.DecodeTo wanted fields config := by
  cases wellFormed : sources.fileSettings? with
  | none =>
      rw [(load_malformed wellFormed).1]
      refine iff_of_false nofun ?_
      rintro ⟨⟨_, same, -⟩, -⟩
      cases same
  | some file =>
      obtain ⟨after, laid, overlaid⟩ := Sources.settings_flat flat wellFormed
      have noTable : ¬(Setting.table []).HasTable wanted.name := nofun
      rw [load_of_settings laid, elim_read_eq_ok_iff,
        exists_read_iff fieldwise .empty (flat.file file wellFormed)
          (Sources.isWritten_fileSettings? wellFormed) wellFormed overlaid]
      simp [noTable]

/-- A section can be loaded with its defaults unless a scalar stands in its place, if what
prevails can be decoded. -/
theorem loadOrDefault_eq_ok_iff
    (fieldwise : wanted.IsFieldwise fields)
    (flat : sources.IsFlat wanted.name) :
    wanted.loadOrDefault sources = .ok config ↔
      sources.Offers wanted.name ∧ sources.DecodeTo wanted fields config := by
  rw [Sources.Offers]
  cases wellFormed : sources.fileSettings? with
  | none =>
      rw [(load_malformed wellFormed).2]
      refine iff_of_false nofun ?_
      rintro ⟨⟨_, same, -⟩, -⟩
      cases same
  | some file =>
      obtain ⟨after, laid, overlaid⟩ := Sources.settings_flat flat wellFormed
      have table : (Setting.table [(wanted.name, wanted.toSetting wanted.standard)]).HasTable
          wanted.name := by
        obtain ⟨entries, same, -⟩ := fieldwise.standard
        rw [same]
        exact ⟨entries, List.lookup_cons_self⟩
      rw [loadOrDefault_of_settings laid, elim_read_eq_ok_iff,
        exists_read_iff fieldwise .standard (flat.file file wellFormed)
          (Sources.isWritten_fileSettings? wellFormed) wellFormed overlaid]
      simp [table]

/-- What a section loads from sources is decided field by field. -/
structure LoadsByPriority (wanted : Section Config) (fields : List (ConfigField Config))
    (sources : Sources) : Prop where
  /-- Each field is decoded from what prevails under its name. -/
  loaded : ∀ config, wanted.loadOrDefault sources = .ok config ↔
    sources.Offers wanted.name ∧ sources.DecodeTo wanted fields config
  /-- What the sources say about keys that are no fields does not matter. -/
  unknown : ∀ other : Sources, other.IsFlat wanted.name →
    (other.Offers wanted.name ↔ sources.Offers wanted.name) →
    (∀ field ∈ fields,
      other.prevailing? wanted field.name = sources.prevailing? wanted field.name) →
    (wanted.loadOrDefault other).toOption = (wanted.loadOrDefault sources).toOption
  /-- If some source has the section, its defaults need not be a source. -/
  present : sources.HasSection wanted.name →
    (wanted.load sources).toOption = (wanted.loadOrDefault sources).toOption
  /-- If no source has the section, its defaults have to be a source. -/
  absent : ¬sources.HasSection wanted.name → sources.fileSettings?.isSome →
    (∃ detail, wanted.load sources = .error (.failure (.config detail))) ∧
      wanted.loadOrDefault sources = .ok wanted.standard
  /-- A file that holds text may be asked for. -/
  fileGiven : sources.text?.isSome → wanted.loadFromFile sources = wanted.loadOrDefault sources
  /-- There is no file, or it holds no text. -/
  fileMissing : sources.text? = none →
    ∃ detail, wanted.loadFromFile sources = .error (.failure (.config detail))

theorem toOption_eq_of_iff {first second : Except Stop Config}
    (same : ∀ config, first = .ok config ↔ second = .ok config) :
    first.toOption = second.toOption := by
  cases first with
  | ok config => rw [(same config).1 rfl]
  | error stop =>
      cases second with
      | ok config => exact absurd ((same config).2 rfl) nofun
      | error other => rfl

/-- A file has nothing under the name of a section that no source has. -/
theorem unnamed_of_absent
    (absent : ¬sources.HasSection wanted.name)
    (wellFormed : sources.fileSettings? = some file) :
    file.get? wanted.name = none := by
  rw [Sources.HasSection, wellFormed, Option.bind_some, not_or, Option.not_isSome_iff_eq_none]
    at absent
  exact absent.2

/-- A section that no source has is decoded to its defaults. -/
theorem decodeTo_standard_of_absent
    (fieldwise : wanted.IsFieldwise fields)
    (absent : ¬sources.HasSection wanted.name) :
    sources.DecodeTo wanted fields wanted.standard := by
  intro field member
  have unset : Environment.value? sources.environment wanted.name field.name = none := by
    rw [Environment.value?, Option.map_eq_none_iff, List.find?_eq_none]
    intro entry inside sets
    rw [beq_iff_eq] at sets
    exact absent (.inl ⟨entry, inside, by rw [sets]; rfl⟩)
  have unnamed : (sources.fileSettings?.bind fun file => file.within? wanted.name field.name) =
      none := by
    rw [Option.bind_eq_none_iff]
    intro file wellFormed
    rw [Setting.within?, unnamed_of_absent absent wellFormed]
    rfl
  obtain ⟨entries, table, standards⟩ := fieldwise.standard
  obtain ⟨value, named, decoded⟩ := standards field member
  rw [Sources.prevailing?, unset, unnamed, table]
  change (entries.lookup field.name).bind field.decode? = _
  rw [named]
  exact decoded

theorem loadsByPriority
    (fieldwise : wanted.IsFieldwise fields)
    (flat : sources.IsFlat wanted.name) :
    wanted.LoadsByPriority fields sources where
  loaded config := loadOrDefault_eq_ok_iff fieldwise flat
  unknown other flatOther offers agree := by
    refine toOption_eq_of_iff fun config => ?_
    rw [loadOrDefault_eq_ok_iff fieldwise flatOther, loadOrDefault_eq_ok_iff fieldwise flat, offers]
    refine and_congr_right fun _ => forall₂_congr fun field member => ?_
    rw [agree field member]
  present has := by
    refine toOption_eq_of_iff fun config => ?_
    rw [load_eq_ok_iff fieldwise flat, loadOrDefault_eq_ok_iff fieldwise flat, Sources.Offers]
    refine and_congr_left fun _ => exists_congr fun file => and_congr_right fun wellFormed => ?_
    rw [← or_assoc, iff_self_or]
    intro unnamed
    rw [Sources.HasSection, wellFormed, Option.bind_some, unnamed] at has
    exact .inl (has.resolve_right Bool.false_ne_true)
  absent lacks wellFormed := by
    obtain ⟨file, wellFormed⟩ := Option.isSome_iff_exists.1 wellFormed
    have unnamed := unnamed_of_absent lacks wellFormed
    constructor
    · cases loaded : wanted.load sources with
      | error stop =>
          obtain ⟨detail, rfl⟩ := load_eq_error flat (.inl loaded)
          exact ⟨detail, rfl⟩
      | ok config =>
          obtain ⟨⟨other, same, setting | ⟨entries, table⟩⟩, -⟩ :=
            (load_eq_ok_iff fieldwise flat).1 loaded
          · exact absurd (.inl setting) lacks
          · rw [unnamed_of_absent lacks same] at table
            cases table
    · rw [loadOrDefault_eq_ok_iff fieldwise flat]
      exact ⟨⟨file, wellFormed, .inr (.inr unnamed)⟩, decodeTo_standard_of_absent fieldwise lacks⟩
  fileGiven given := by rw [loadFromFile, if_pos given]
  fileMissing missing := by
    rw [loadFromFile, missing]
    exact ⟨_, rfl⟩

end Section

/-- Each of the two sections is loaded by priority from any sources that are flat at it. -/
theorem Sources.sections_loadByPriority (sources : Sources) :
    (sources.IsFlat AnalysisConfig.configSection.name →
      AnalysisConfig.configSection.LoadsByPriority AnalysisConfig.fields sources) ∧
    (sources.IsFlat LogConfig.configSection.name →
      LogConfig.configSection.LoadsByPriority LogConfig.fields sources) :=
  ⟨Section.loadsByPriority AnalysisConfig.isFieldwise,
    Section.loadsByPriority LogConfig.isFieldwise⟩

/-- The environment overrides the label of the file, the file overrides the base of the
defaults, and a section that no source has keeps its defaults. -/
theorem Sources.sections_loadByPriority_overridden :
    let sources : Sources :=
      ⟨some
        (Utf8.encode "taint = \x7b default_label = 7, shadow_base = 0x10, since = 1979-05-27 \x7d"),
        [("ARMTAINT__TAINT__DEFAULT_LABEL", "9"), ("ARMTAINT_CONFIG", "a.toml"),
          ("ARMTAINT__ELSE[2]", "yes")]⟩
    (∃ config, AnalysisConfig.configSection.loadOrDefault sources = .ok config ∧
      (AnalysisConfig.configSection.load sources).toOption = some config ∧
      config.defaultLabel = 9 ∧ config.shadowBase = 16 ∧ config.stackAutoClear = true) ∧
    (∃ detail, LogConfig.configSection.load sources = .error (.failure (.config detail))) ∧
      LogConfig.configSection.loadOrDefault sources = .ok LogConfig.standard := by
  intro sources
  have analysis := (sections_loadByPriority sources).1 (by decide +kernel)
  have log := (sections_loadByPriority sources).2 (by decide +kernel)
  have loads : (AnalysisConfig.configSection.loadOrDefault sources).toOption.isSome = true := by
    decide +kernel
  refine ⟨?_, log.absent (by decide +kernel) (by decide +kernel)⟩
  cases loaded : AnalysisConfig.configSection.loadOrDefault sources with
  | error stop =>
      rw [loaded] at loads
      cases loads
  | ok config =>
      have decoded := ((analysis.loaded config).1 loaded).2
      simp only [DecodeTo, AnalysisConfig.fields, List.forall_mem_cons] at decoded
      obtain ⟨base, -, label, -, stack, -⟩ := decoded
      have same := analysis.present (by decide +kernel)
      rw [loaded] at same
      exact ⟨config, rfl, same, Option.some.inj (label.symm.trans (by decide +kernel)),
        Option.some.inj (base.symm.trans (by decide +kernel)),
        Option.some.inj (stack.symm.trans (by decide +kernel))⟩

end ShadowTaint
