import ShadowTaint.Proofs.Config.Files

/-!
# What the statements of settings files say

A statement gives a value to a key. No later statement changes that: a name is given a value
once, and what has a value does not grow. So a key of a section has the setting that its word
denotes, wherever the file gives it one: below the header of the section, by a dotted key, or
in a table in braces.
-/

namespace ShadowTaint
namespace Toml

/-! ## Settings that stay -/

namespace Growth

variable {growth before after : Growth} {entries grown : List (String × Growth)}
  {setting : Setting} {name : String} {key path : List String} {origin other : Origin}

/-- The setting at the end of a path through tables, if it does not grow any more. -/
def valueAt? : List String -> Growth -> Option Setting
  | [], value setting => some setting
  | name :: rest, table _ entries => (entries.lookup name).bind (valueAt? rest)
  | _, _ => none

/-- Settings that do not grow any more are still in their places later on. -/
def Keeps (before after : Growth) : Prop :=
  ∀ path setting, valueAt? path before = some setting -> valueAt? path after = some setting

theorem keeps_table : Keeps (table origin entries) (table other entries) := by
  intro path setting found
  cases path with
  | nil => cases found
  | cons => exact found

/-- Putting something into a table keeps what is elsewhere, and what it keeps itself. -/
theorem keeps_put
    (keeps : ∀ kept, entries.lookup name = some kept -> Keeps kept growth) :
    Keeps (table origin entries) (table other (Setting.putEntry name growth entries)) := by
  intro path setting found
  cases path with
  | nil => cases found
  | cons first rest =>
      obtain ⟨kept, known, deeper⟩ := Option.bind_eq_some_iff.1 found
      rw [valueAt?, Setting.lookup_putEntry]
      by_cases here : first = name
      · subst here
        rw [if_pos rfl]
        exact keeps kept known rest setting deeper
      · rw [if_neg here, known]
        exact deeper

theorem keeps_put_of_absent (unknown : entries.lookup name = none) :
    Keeps (table origin entries) (table other (Setting.putEntry name growth entries)) := by
  refine keeps_put fun kept known => ?_
  rw [unknown] at known
  cases known

/-- No path through tables leads into a list of tables. -/
theorem keeps_put_of_tables
    {finished : List Setting}
    {inner : List (String × Growth)}
    (found : entries.lookup name = some (tables finished inner)) :
    Keeps (table origin entries) (table other (Setting.putEntry name growth entries)) := by
  refine keeps_put fun kept known => ?_
  cases found.symm.trans known
  intro path setting ends
  cases path <;> cases ends

/-- What is kept of the table under a name, or of an empty one, is kept of what is there. -/
theorem keeps_of_getD
    (found : (entries.lookup name).getD (table origin []) = growth)
    (keeps : Keeps growth after)
    (kept : Growth)
    (known : entries.lookup name = some kept) :
    Keeps kept after := by
  rw [known, Option.getD_some] at found
  exact found ▸ keeps

theorem keeps_insert? (inserted : insert? setting key entries = some grown) :
    Keeps (table origin entries) (table other grown) := by
  induction key generalizing entries grown origin other with
  | nil => cases inserted
  | cons name rest inductionHypothesis =>
      obtain ⟨-, unknown, rfl⟩ | ⟨inner, innerGrown, found, innerInserted, rfl⟩ :=
        insert?_cons_cases inserted
      · exact keeps_put_of_absent unknown
      · exact keeps_put (keeps_of_getD found (inductionHypothesis innerInserted))

theorem keeps_openTable? (opened : openTable? name entries = some grown) :
    Keeps (table origin entries) (table other grown) := by
  rw [openTable?] at opened
  split at opened
  · next inner found =>
      cases opened
      exact keeps_put (keeps_of_getD found keeps_table)
  · cases opened

theorem keeps_addItem? (added : addItem? name entries = some grown) :
    Keeps (table origin entries) (table other grown) := by
  rw [addItem?] at added
  split at added
  · next unknown =>
      cases added
      exact keeps_put_of_absent unknown
  · next finished inner found =>
      cases added
      exact keeps_put_of_tables found
  · cases added

/-- A change that keeps settings does so at the end of a path. -/
theorem keeps_changeAt?
    {change : List (String × Growth) -> Option (List (String × Growth))}
    (keeps : ∀ before after, change before = some after ->
      ∀ origin other, Keeps (table origin before) (table other after))
    (changed : changeAt? change path entries = some grown) :
    Keeps (table origin entries) (table other grown) := by
  induction path generalizing entries grown origin other with
  | nil => exact keeps entries grown changed origin other
  | cons name rest inductionHypothesis =>
      obtain ⟨_, inner, innerGrown, found, innerChanged, rfl⟩ |
          ⟨finished, inner, innerGrown, found, -, rfl⟩ := changeAt?_cons_cases changed
      · exact keeps_put (keeps_of_getD found (inductionHypothesis innerChanged))
      · exact keeps_put_of_tables found

/-- A key that is given a setting has it. -/
theorem valueAt?_insert (inserted : insert? setting key entries = some grown) :
    valueAt? key (table origin grown) = some setting := by
  induction key generalizing entries grown origin with
  | nil => cases inserted
  | cons name rest inductionHypothesis =>
      obtain ⟨rfl, -, rfl⟩ | ⟨inner, innerGrown, -, innerInserted, rfl⟩ :=
        insert?_cons_cases inserted
      · rw [valueAt?, Setting.lookup_putEntry, if_pos rfl]
        rfl
      · have deeper : valueAt? rest (table .dotted innerGrown) = some setting :=
          inductionHypothesis innerInserted
        rw [valueAt?, Setting.lookup_putEntry, if_pos rfl]
        exact deeper

theorem get?_settings_of_valueAt? (found : valueAt? [name] (table origin entries) = some setting) :
    (Setting.table (settings entries)).get? name = some setting := by
  obtain ⟨growth, known, ends⟩ := Option.bind_eq_some_iff.1 found
  change (settings entries).lookup name = _
  rw [lookup_settings, known]
  cases growth with
  | value =>
      cases ends
      rfl
  | table | tables => cases ends

theorem within?_settings_of_valueAt?
    {wanted : String}
    (found : valueAt? [wanted, name] (table origin entries) = some setting) :
    (Setting.table (settings entries)).within? wanted name = some setting := by
  obtain ⟨growth, known, ends⟩ := Option.bind_eq_some_iff.1 found
  cases growth with
  | table deeper inner =>
      have outer : (Setting.table (settings entries)).get? wanted =
          some (.table (settings inner)) := by
        change (settings entries).lookup wanted = _
        rw [lookup_settings, known]
        rfl
      rw [Setting.within?, outer]
      exact get?_settings_of_valueAt? ends
  | value | tables => cases ends

end Growth

/-! ## Values in braces -/

namespace Value

variable {grown after : List (String × Growth)} {entries : List (List String × Value)}
  {key : List String} {value : Value} {origin other : Origin}

theorem keeps_growth? (read : growth? grown entries = some after) :
    Growth.Keeps (.table origin grown) (.table other after) := by
  induction entries generalizing grown origin with
  | nil =>
      cases read
      exact Growth.keeps_table
  | cons entry rest inductionHypothesis =>
      obtain ⟨setting, -, read⟩ := Option.bind_eq_some_iff.1 read
      obtain ⟨next, inserted, read⟩ := Option.bind_eq_some_iff.1 read
      have first : Growth.Keeps (.table origin grown) (.table other next) :=
        Growth.keeps_insert? inserted
      intro path kept found
      exact inductionHypothesis read path kept (first path kept found)

/-- Every key in braces has the setting that its value denotes. -/
theorem valueAt?_of_mem_entries
    (read : growth? grown entries = some after)
    (member : (key, value) ∈ entries) :
    ∃ setting, value.setting? = some setting ∧
      Growth.valueAt? key (.table .opened after) = some setting := by
  induction entries generalizing grown with
  | nil => cases member
  | cons entry rest inductionHypothesis =>
      obtain ⟨setting, valueRead, read⟩ := Option.bind_eq_some_iff.1 read
      obtain ⟨next, inserted, restRead⟩ := Option.bind_eq_some_iff.1 read
      obtain rfl | later := List.mem_cons.1 member
      · have placed : Growth.valueAt? key (.table .opened next) = some setting :=
          Growth.valueAt?_insert inserted
        exact ⟨setting, valueRead, keeps_growth? restRead key setting placed⟩
      · exact inductionHypothesis restRead later

end Value

/-! ## Statements -/

variable {document after : Document} {statement : Statement} {statements : List Statement}
  {wanted key : String} {word : List Char}

/-- The settings of a document that do not grow any more are still there in another one. -/
def Document.Keeps (before after : Document) : Prop :=
  Growth.Keeps (.table .opened before.entries) (.table .opened after.entries)

theorem keeps_head?
    {change : String -> List (String × Growth) -> Option (List (String × Growth))}
    {path : List String}
    (keeps : ∀ name before after, change name before = some after ->
      ∀ origin other, Growth.Keeps (.table origin before) (.table other after))
    (changed : document.head? change path = some after) :
    document.Keeps after := by
  rw [Document.head?] at changed
  split at changed
  · next name last =>
      obtain ⟨entries, entriesChanged, rfl⟩ := Option.map_eq_some_iff.1 changed
      exact Growth.keeps_changeAt? (keeps name) entriesChanged
  · cases changed

/-- A statement leaves the settings that are there in their places. -/
theorem keeps_add? (added : document.add? statement = some after) : document.Keeps after := by
  cases statement with
  | table path => exact keeps_head? (fun _ _ _ opened _ _ => Growth.keeps_openTable? opened) added
  | item path => exact keeps_head? (fun _ _ _ begun _ _ => Growth.keeps_addItem? begun) added
  | entry key value =>
      obtain ⟨setting, grown, -, changed, rfl⟩ := exists_of_add?_entry added
      exact Growth.keeps_changeAt? (fun _ _ inserted _ _ => Growth.keeps_insert? inserted) changed

theorem keeps_addAll? (added : document.addAll? statements = some after) :
    document.Keeps after := by
  refine addAll?_preserves document.Keeps ?_ (fun _ _ found => found) added
  intro statement _ before next nextAdded keeps path setting found
  exact keeps_add? nextAdded path setting (keeps path setting found)

theorem addAll?_append {first second : List Statement} :
    document.addAll? (first ++ second) =
      (document.addAll? first).bind fun next => next.addAll? second :=
  List.foldlM_append

/-- A statement gives a value to a key of the table to which keys belong. -/
inductive Statement.IsEntry : Statement -> Prop
  | entry (key : List String) (value : Value) : IsEntry (.entry key value)

/-- Entries belong to the table to which keys belonged before. -/
theorem current_addAll?
    (entries : ∀ statement ∈ statements, statement.IsEntry)
    (added : document.addAll? statements = some after) :
    after.current = document.current := by
  refine addAll?_preserves (fun reached => reached.current = document.current) ?_ rfl added
  intro statement member before next nextAdded same
  cases entries statement member with
  | entry key value =>
      obtain ⟨setting, grown, -, -, rfl⟩ := exists_of_add?_entry nextAdded
      exact same

/-- Keys belong to a table that the file opened under a single name. -/
structure Document.IsIn (document : Document) (wanted : String) : Prop where
  current : document.current = [wanted]
  opened : ∃ inner, document.entries.lookup wanted = some (.table .opened inner)

theorem isIn_of_table (added : document.add? (.table [wanted]) = some after) :
    after.IsIn wanted := by
  obtain ⟨entries, changed, rfl⟩ := Option.map_eq_some_iff.1 added
  rw [List.dropLast_singleton, Growth.changeAt?, Growth.openTable?] at changed
  split at changed
  · next inner found =>
      cases changed
      exact ⟨rfl, inner, by rw [List.getLast_singleton, Setting.lookup_putEntry, if_pos rfl]⟩
  · cases changed

/-- A change of the entries of a table that was opened. -/
theorem Document.IsIn.changeAt?_eq
    (isIn : document.IsIn wanted)
    {change : List (String × Growth) -> Option (List (String × Growth))}
    {grown : List (String × Growth)}
    (changed : Growth.changeAt? change document.current document.entries = some grown) :
    ∃ inner innerGrown, change inner = some innerGrown ∧
      grown = Setting.putEntry wanted (.table .opened innerGrown) document.entries := by
  obtain ⟨inner, known⟩ := isIn.opened
  rw [isIn.current, Growth.changeAt?, known, Option.getD_some] at changed
  obtain ⟨innerGrown, innerChanged, rfl⟩ := Option.map_eq_some_iff.1 changed
  exact ⟨inner, innerGrown, innerChanged, rfl⟩

theorem Document.IsIn.addAll?
    (isIn : document.IsIn wanted)
    (entries : ∀ statement ∈ statements, statement.IsEntry)
    (added : document.addAll? statements = some after) :
    after.IsIn wanted := by
  refine addAll?_preserves (fun reached => reached.IsIn wanted) ?_ isIn added
  intro statement member before next nextAdded isIn
  cases entries statement member with
  | entry key value =>
      obtain ⟨setting, grown, -, changed, rfl⟩ := exists_of_add?_entry nextAdded
      obtain ⟨inner, innerGrown, -, rfl⟩ := isIn.changeAt?_eq changed
      exact ⟨isIn.current, innerGrown, by rw [Setting.lookup_putEntry, if_pos rfl]⟩

/-- Statements give a word to a key of a section. -/
inductive Gives (wanted key : String) (word : List Char) : List Statement -> Prop
  /-- Below the header of the section. -/
  | below {before between behind : List Statement}
      (entries : ∀ statement ∈ between, statement.IsEntry) :
      Gives wanted key word
        (before ++ .table [wanted] :: (between ++ .entry [key] (.word word) :: behind))
  /-- By a dotted key, above all headers. -/
  | dotted {before behind : List Statement}
      (entries : ∀ statement ∈ before, statement.IsEntry) :
      Gives wanted key word (before ++ .entry [wanted, key] (.word word) :: behind)
  /-- In braces, above all headers. -/
  | braces {before behind : List Statement} {inner : List (List String × Value)}
      (entries : ∀ statement ∈ before, statement.IsEntry)
      (member : ([key], .word word) ∈ inner) :
      Gives wanted key word (before ++ .entry [wanted] (.table inner) :: behind)

theorem within?_of_keeps
    {before after : Document}
    {value : Setting}
    (keeps : before.Keeps after)
    (found : Growth.valueAt? [wanted, key] (.table .opened before.entries) = some value) :
    after.setting.within? wanted key = some value :=
  Growth.within?_settings_of_valueAt? (keeps [wanted, key] value found)

/-- An entry above all headers is an entry of the file. -/
theorem insert?_of_entry
    {path : List String}
    {value : Value}
    (top : document.current = [])
    (added : document.add? (.entry path value) = some after) :
    ∃ setting, value.setting? = some setting ∧
      Growth.insert? setting path document.entries = some after.entries := by
  obtain ⟨setting, grown, read, changed, rfl⟩ := exists_of_add?_entry added
  rw [top, Growth.changeAt?] at changed
  exact ⟨setting, read, changed⟩

/-- The statements up to one of them, that one, and those behind it. -/
theorem exists_added
    {before behind : List Statement}
    (added : document.addAll? (before ++ statement :: behind) = some after) :
    ∃ reached next, document.addAll? before = some reached ∧
      reached.add? statement = some next ∧ next.addAll? behind = some after := by
  rw [addAll?_append] at added
  obtain ⟨reached, beforeAdded, added⟩ := Option.bind_eq_some_iff.1 added
  rw [Document.addAll?, List.foldlM_cons] at added
  obtain ⟨next, oneAdded, behindAdded⟩ := Option.bind_eq_some_iff.1 added
  exact ⟨reached, next, beforeAdded, oneAdded, behindAdded⟩

/-- A key has the setting that its word denotes. -/
theorem within?_of_gives
    {settings : Setting}
    (gives : Gives wanted key word statements)
    (built : build? statements = some settings) :
    ∃ value, scalar? word = some value ∧ settings.within? wanted key = some value := by
  obtain ⟨last, added, rfl⟩ := Option.map_eq_some_iff.1 built
  cases gives with
  | below entries =>
      obtain ⟨reached, opened, -, headed, added⟩ := exists_added added
      obtain ⟨reached, next, betweenAdded, given, behindAdded⟩ := exists_added added
      have isIn := (isIn_of_table headed).addAll? entries betweenAdded
      obtain ⟨value, grown, read, changed, rfl⟩ := exists_of_add?_entry given
      obtain ⟨inner, innerGrown, inserted, rfl⟩ := isIn.changeAt?_eq changed
      refine ⟨value, read, within?_of_keeps (keeps_addAll? behindAdded) ?_⟩
      have placed : Growth.valueAt? [key] (.table .opened innerGrown) = some value :=
        Growth.valueAt?_insert inserted
      rw [Growth.valueAt?, Setting.lookup_putEntry, if_pos rfl]
      exact placed
  | dotted entries =>
      obtain ⟨reached, next, beforeAdded, given, behindAdded⟩ := exists_added added
      obtain ⟨value, read, inserted⟩ := insert?_of_entry (current_addAll? entries beforeAdded) given
      exact ⟨value, read, within?_of_keeps (keeps_addAll? behindAdded)
        (Growth.valueAt?_insert inserted)⟩
  | braces entries member =>
      obtain ⟨reached, next, beforeAdded, given, behindAdded⟩ := exists_added added
      obtain ⟨table, read, inserted⟩ := insert?_of_entry (current_addAll? entries beforeAdded) given
      obtain ⟨grown, innerRead, rfl⟩ := Option.map_eq_some_iff.1 read
      obtain ⟨value, wordRead, placed⟩ := Value.valueAt?_of_mem_entries innerRead member
      refine ⟨value, wordRead, ?_⟩
      have outer : last.setting.get? wanted = some (.table (Growth.settings grown)) :=
        Growth.get?_settings_of_valueAt?
          (keeps_addAll? behindAdded [wanted] _ (Growth.valueAt?_insert inserted))
      rw [Setting.within?, outer]
      exact Growth.get?_settings_of_valueAt? placed

/-- A word that denotes a whole number denotes a setting if the number fits. -/
theorem scalar?_of_integer?
    {number : Int}
    (denotes : integer? word = some number) :
    scalar? word = if Whole.fits number then some (.integer number) else none := by
  have named {name : List Char} (isNone : integer? name = none) : word ≠ name := by
    rintro rfl
    rw [isNone] at denotes
    cases denotes
  have yes : word ≠ "true".toList := named (by decide)
  have no : word ≠ "false".toList := named (by decide)
  rw [scalar?, if_neg yes, if_neg no, denotes]

end Toml
end ShadowTaint
