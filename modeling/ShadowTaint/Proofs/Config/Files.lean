import ShadowTaint.Config.Toml.Document
import ShadowTaint.Proofs.Config.Overlay

/-!
# What settings files hold

A settings file is read statement by statement into one document. Every statement that is
taken in keeps the document well formed: no table has a name twice, and integers fit into a
signed word. So this holds of every file that can be read.
-/

namespace ShadowTaint

namespace Setting

/-- A setting as it comes from a settings file: no table in it has a name twice, and its
integers fit into a signed word. -/
inductive IsWritten : Setting -> Prop
  | boolean (value : Bool) : IsWritten (.boolean value)
  | integer {value : Int} (fits : Whole.fits value = true) : IsWritten (.integer value)
  | real (value : Double) : IsWritten (.real value)
  | text (value : String) : IsWritten (.text value)
  | list {items : List Setting} (inner : ∀ item ∈ items, IsWritten item) : IsWritten (.list items)
  | table {entries : List (String × Setting)}
      (once : (entries.map Prod.fst).Nodup)
      (inner : ∀ entry ∈ entries, IsWritten entry.2) : IsWritten (.table entries)

variable {target value after : Setting} {entries : List (String × Setting)} {name : String}

theorem mem_putEntry {entry : String × Setting} (member : entry ∈ putEntry name value entries) :
    entry = (name, value) ∨ entry ∈ entries := by
  induction entries with
  | nil => exact .inl (List.mem_singleton.1 member)
  | cons first rest inductionHypothesis =>
      rw [putEntry] at member
      split at member
      · exact (List.mem_cons.1 member).imp_right (List.mem_cons_of_mem _)
      · obtain rfl | later := List.mem_cons.1 member
        · exact .inr List.mem_cons_self
        · exact (inductionHypothesis later).imp_right (List.mem_cons_of_mem _)

theorem nodup_putEntry (once : (entries.map Prod.fst).Nodup) :
    ((putEntry name value entries).map Prod.fst).Nodup := by
  induction entries with
  | nil => simp [putEntry]
  | cons first rest inductionHypothesis =>
      rw [List.map_cons, List.nodup_cons] at once
      rw [putEntry]
      split
      · rename_i here
        exact here ▸ List.nodup_cons.2 once
      · rename_i different
        rw [List.map_cons, List.nodup_cons]
        refine ⟨fun member => ?_, inductionHypothesis once.2⟩
        obtain ⟨entry, kept, same⟩ := List.mem_map.1 member
        obtain rfl | before := mem_putEntry kept
        · exact different same.symm
        · exact once.1 (same ▸ List.mem_map_of_mem before)

theorem IsWritten.put
    (written : (Setting.table entries).IsWritten)
    (valueWritten : value.IsWritten) :
    ((Setting.table entries).put name value).IsWritten := by
  cases written with
  | table once inner =>
      refine .table (nodup_putEntry once) fun entry member => ?_
      obtain rfl | before := mem_putEntry member
      · exact valueWritten
      · exact inner entry before

theorem IsWritten.of_get? (written : target.IsWritten) (found : target.get? name = some value) :
    value.IsWritten := by
  cases written with
  | table once inner => exact inner _ (mem_entries_of_get? found)
  | boolean | integer | real | text | list => cases found

theorem isWritten_empty : (Setting.table []).IsWritten := .table List.nodup_nil nofun

theorem IsWritten.nodup_entries (written : target.IsWritten) :
    (target.entries.map Prod.fst).Nodup := by
  cases written with
  | table once inner => exact once
  | boolean | integer | real | text | list => exact List.nodup_nil

theorem IsWritten.namedOnce (written : target.IsWritten) : target.NamedOnce where
  outer := written.nodup_entries
  inner entry member := by
    cases written with
    | table once inner => exact (inner entry member).nodup_entries
    | boolean | integer | real | text | list => cases member

/-- Integers in a section of a settings file fit into a signed word. -/
theorem IsWritten.fits_of_within?
    {key : String}
    {number : Int}
    (written : target.IsWritten)
    (found : target.within? name key = some (.integer number)) :
    Whole.fits number = true := by
  obtain ⟨inner, outer, found⟩ := Option.bind_eq_some_iff.1 found
  cases (written.of_get? outer).of_get? found with
  | integer fits => exact fits

end Setting

namespace Toml

open Setting (IsWritten)

/-! ## Scalars -/

theorem isWritten_scalar? {word : List Char} {setting : Setting}
    (read : scalar? word = some setting) :
    setting.IsWritten := by
  rw [scalar?] at read
  split at read
  · cases read
    exact .boolean true
  · split at read
    · cases read
      exact .boolean false
    · split at read
      · split at read
        · next fits =>
            cases read
            exact .integer fits
        · cases read
      · split at read
        · cases read
          exact .real _
        · obtain ⟨text, -, rfl⟩ := Option.map_eq_some_iff.1 read
          exact .text _

/-! ## Growth -/

namespace Growth

variable {entries after : List (String × Growth)} {setting : Setting} {name : String}

theorem lookup_settings (entries : List (String × Growth)) (name : String) :
    (settings entries).lookup name = (entries.lookup name).map Growth.setting := by
  induction entries with
  | nil => rfl
  | cons entry rest inductionHypothesis =>
      obtain ⟨first, growth⟩ := entry
      rw [settings, List.lookup_cons, List.lookup_cons, inductionHypothesis]
      cases name == first <;> rfl

@[simp] theorem settings_putEntry (name : String) (growth : Growth)
    (entries : List (String × Growth)) :
    settings (Setting.putEntry name growth entries) =
      Setting.putEntry name growth.setting (settings entries) := by
  induction entries with
  | nil => rfl
  | cons entry rest inductionHypothesis =>
      obtain ⟨first, kept⟩ := entry
      rw [Setting.putEntry, settings, Setting.putEntry]
      split
      · rfl
      · rw [settings, inductionHypothesis]

/-- A key is given a setting in the table itself, or in one below it. -/
theorem insert?_cons_cases
    {rest : List String}
    (inserted : insert? setting (name :: rest) entries = some after) :
    (rest = [] ∧ entries.lookup name = none ∧
      after = Setting.putEntry name (value setting) entries) ∨
    ∃ inner grown, (entries.lookup name).getD (table .dotted []) = table .dotted inner ∧
      insert? setting rest inner = some grown ∧
      after = Setting.putEntry name (table .dotted grown) entries := by
  cases rest with
  | nil =>
      rw [insert?] at inserted
      split at inserted
      · cases inserted
      · next unknown =>
          cases inserted
          exact .inl ⟨rfl, unknown, rfl⟩
  | cons next others =>
      rw [insert?] at inserted
      · split at inserted
        · next inner found =>
            obtain ⟨grown, innerInserted, rfl⟩ := Option.map_eq_some_iff.1 inserted
            exact .inr ⟨inner, grown, found, innerInserted, rfl⟩
        · cases inserted
      · exact List.cons_ne_nil _ _

/-- A path goes on in a table, or in the last item of a list of tables. -/
theorem changeAt?_cons_cases
    {change : List (String × Growth) -> Option (List (String × Growth))}
    {rest : List String}
    (changed : changeAt? change (name :: rest) entries = some after) :
    (∃ origin inner grown, (entries.lookup name).getD (table .passed []) = table origin inner ∧
      changeAt? change rest inner = some grown ∧
      after = Setting.putEntry name (table origin grown) entries) ∨
    ∃ finished inner grown, entries.lookup name = some (tables finished inner) ∧
      changeAt? change rest inner = some grown ∧
      after = Setting.putEntry name (tables finished grown) entries := by
  rw [changeAt?] at changed
  split at changed
  · cases changed
  · cases changed
  · next origin inner _ found =>
      obtain ⟨grown, innerChanged, rfl⟩ := Option.map_eq_some_iff.1 changed
      exact .inl ⟨origin, inner, grown, found, innerChanged, rfl⟩
  · next finished inner found =>
      obtain ⟨grown, innerChanged, rfl⟩ := Option.map_eq_some_iff.1 changed
      refine .inr ⟨finished, inner, grown, ?_, innerChanged, rfl⟩
      cases known : entries.lookup name with
      | none =>
          rw [known] at found
          cases found
      | some growth =>
          rw [known] at found
          exact congrArg some found

/-- The settings that have grown up to now are well formed. -/
def AreWritten (entries : List (String × Growth)) : Prop :=
  (Setting.table (settings entries)).IsWritten

theorem areWritten_nil : AreWritten [] := Setting.isWritten_empty

theorem AreWritten.put (written : AreWritten entries) {growth : Growth}
    (grownWritten : growth.setting.IsWritten) :
    AreWritten (Setting.putEntry name growth entries) := by
  rw [AreWritten, settings_putEntry]
  exact IsWritten.put written grownWritten

theorem AreWritten.of_lookup (written : AreWritten entries) {growth : Growth}
    (found : entries.lookup name = some growth) :
    growth.setting.IsWritten := by
  have outer : (Setting.table (settings entries)).get? name = some growth.setting := by
    change (settings entries).lookup name = _
    rw [lookup_settings, found]
    rfl
  exact IsWritten.of_get? written outer

/-- The entries of a table that is there, or of an empty one, are well formed. -/
theorem AreWritten.of_table
    (written : AreWritten entries)
    {origin other : Origin}
    {inner : List (String × Growth)}
    (found : (entries.lookup name).getD (table origin []) = table other inner) :
    AreWritten inner := by
  cases known : entries.lookup name with
  | none =>
      rw [known] at found
      cases found
      exact areWritten_nil
  | some growth =>
      rw [known] at found
      cases found
      exact written.of_lookup known

/-- The items of a list of tables are well formed. -/
theorem AreWritten.of_tables
    (written : AreWritten entries)
    {finished : List Setting}
    {inner : List (String × Growth)}
    (found : entries.lookup name = some (tables finished inner)) :
    (∀ item ∈ finished, item.IsWritten) ∧ AreWritten inner := by
  have both := written.of_lookup found
  rw [Growth.setting] at both
  cases both with
  | list written =>
      exact ⟨fun item member => written item (List.mem_append_left _ member),
        written _ (List.mem_append_right _ (List.mem_singleton_self _))⟩

theorem isWritten_tables
    {finished : List Setting}
    {inner : List (String × Growth)}
    (finishedWritten : ∀ item ∈ finished, item.IsWritten)
    (innerWritten : AreWritten inner) :
    (tables finished inner).setting.IsWritten := by
  rw [Growth.setting]
  refine .list fun item member => ?_
  obtain before | last := List.mem_append.1 member
  · exact finishedWritten item before
  · rw [List.mem_singleton] at last
    exact last ▸ innerWritten

theorem areWritten_insert?
    {key : List String}
    (written : AreWritten entries)
    (settingWritten : setting.IsWritten)
    (inserted : insert? setting key entries = some after) :
    AreWritten after := by
  induction key generalizing entries after with
  | nil => cases inserted
  | cons name rest inductionHypothesis =>
      obtain ⟨-, -, rfl⟩ | ⟨inner, grown, found, innerInserted, rfl⟩ := insert?_cons_cases inserted
      · exact written.put settingWritten
      · exact written.put (inductionHypothesis (written.of_table found) innerInserted)

theorem areWritten_openTable?
    (written : AreWritten entries)
    (opened : openTable? name entries = some after) :
    AreWritten after := by
  rw [openTable?] at opened
  split at opened
  · next inner found =>
      cases opened
      exact written.put (written.of_table found)
  · cases opened

theorem areWritten_addItem?
    (written : AreWritten entries)
    (added : addItem? name entries = some after) :
    AreWritten after := by
  rw [addItem?] at added
  split at added
  · cases added
    exact written.put (isWritten_tables nofun areWritten_nil)
  · next finished inner found =>
      cases added
      obtain ⟨finishedWritten, innerWritten⟩ := written.of_tables found
      refine written.put (isWritten_tables (fun item member => ?_) areWritten_nil)
      obtain before | last := List.mem_append.1 member
      · exact finishedWritten item before
      · rw [List.mem_singleton] at last
        exact last ▸ innerWritten
  · cases added

/-- A change that keeps entries well formed does so at the end of a path. -/
theorem areWritten_changeAt?
    {change : List (String × Growth) -> Option (List (String × Growth))}
    {path : List String}
    (keeps : ∀ before after, change before = some after -> AreWritten before -> AreWritten after)
    (written : AreWritten entries)
    (changed : changeAt? change path entries = some after) :
    AreWritten after := by
  induction path generalizing entries after with
  | nil => exact keeps entries after changed written
  | cons name rest inductionHypothesis =>
      obtain ⟨origin, inner, grown, found, innerChanged, rfl⟩ |
          ⟨finished, inner, grown, found, innerChanged, rfl⟩ := changeAt?_cons_cases changed
      · exact written.put (inductionHypothesis (written.of_table found) innerChanged)
      · obtain ⟨finishedWritten, innerWritten⟩ := written.of_tables found
        exact written.put
          (isWritten_tables finishedWritten (inductionHypothesis innerWritten innerChanged))

end Growth

/-! ## Values -/

namespace Value

mutual

theorem isWritten_setting? {setting : Setting} :
    ∀ value : Value, value.setting? = some setting -> setting.IsWritten
  | .text content, read => by
      cases read
      exact .text _
  | .word characters, read => isWritten_scalar? read
  | .list items, read => by
      obtain ⟨settings, itemsRead, rfl⟩ := Option.map_eq_some_iff.1 read
      exact .list (isWritten_settings? items itemsRead)
  | .table entries, read => by
      obtain ⟨grown, entriesRead, rfl⟩ := Option.map_eq_some_iff.1 read
      exact areWritten_growth? entries Growth.areWritten_nil entriesRead

theorem isWritten_settings? {settings : List Setting} :
    ∀ values : List Value, Value.settings? values = some settings ->
      ∀ setting ∈ settings, setting.IsWritten
  | [], read => by
      cases read
      exact nofun
  | value :: rest, read => by
      rw [settings?] at read
      split at read
      · next setting others valueRead restRead =>
          cases read
          exact List.forall_mem_cons.2
            ⟨isWritten_setting? value valueRead, isWritten_settings? rest restRead⟩
      · cases read

theorem areWritten_growth? {grown after : List (String × Growth)} :
    ∀ entries : List (List String × Value), Growth.AreWritten grown ->
      growth? grown entries = some after -> Growth.AreWritten after
  | [], written, read => by
      cases read
      exact written
  | (key, value) :: rest, written, read => by
      rw [growth?] at read
      obtain ⟨setting, valueRead, read⟩ := Option.bind_eq_some_iff.1 read
      obtain ⟨next, inserted, read⟩ := Option.bind_eq_some_iff.1 read
      have valueWritten := isWritten_setting? value valueRead
      exact areWritten_growth? rest (Growth.areWritten_insert? written valueWritten inserted) read

end

end Value

/-! ## Documents -/

variable {document after : Document} {statement : Statement} {statements : List Statement}

/-- What an entry makes of a document. -/
theorem exists_of_add?_entry
    {key : List String}
    {value : Value}
    (added : document.add? (.entry key value) = some after) :
    ∃ setting grown, value.setting? = some setting ∧
      Growth.changeAt? (Growth.insert? setting key) document.current document.entries =
        some grown ∧
      after = ⟨grown, document.current⟩ := by
  obtain ⟨setting, read, added⟩ := Option.bind_eq_some_iff.1 added
  obtain ⟨grown, changed, same⟩ := Option.bind_eq_some_iff.1 added
  cases same
  exact ⟨setting, grown, read, changed, rfl⟩

/-- What each of some statements preserves is preserved by all of them, one after the other. -/
theorem addAll?_preserves
    (invariant : Document -> Prop)
    (preserves : ∀ statement ∈ statements, ∀ before after,
      before.add? statement = some after -> invariant before -> invariant after)
    (initially : invariant document)
    (added : document.addAll? statements = some after) :
    invariant after := by
  induction statements generalizing document with
  | nil =>
      cases added
      exact initially
  | cons statement rest inductionHypothesis =>
      rw [Document.addAll?, List.foldlM_cons] at added
      obtain ⟨next, firstAdded, restAdded⟩ := Option.bind_eq_some_iff.1 added
      obtain ⟨firstPreserves, restPreserve⟩ := List.forall_mem_cons.1 preserves
      have preserved : invariant next := firstPreserves document next firstAdded initially
      exact inductionHypothesis restPreserve preserved restAdded

theorem areWritten_head?
    {change : String -> List (String × Growth) -> Option (List (String × Growth))}
    {path : List String}
    (keeps : ∀ name before after,
      change name before = some after -> Growth.AreWritten before -> Growth.AreWritten after)
    (written : Growth.AreWritten document.entries)
    (changed : document.head? change path = some after) :
    Growth.AreWritten after.entries := by
  rw [Document.head?] at changed
  split at changed
  · next name last =>
      obtain ⟨entries, entriesChanged, rfl⟩ := Option.map_eq_some_iff.1 changed
      exact Growth.areWritten_changeAt? (keeps name) written entriesChanged
  · cases changed

/-- Taking in a statement keeps a document well formed. -/
theorem areWritten_add?
    (written : Growth.AreWritten document.entries)
    (added : document.add? statement = some after) :
    Growth.AreWritten after.entries := by
  cases statement with
  | table path =>
      exact areWritten_head? (fun _ _ _ opened kept => Growth.areWritten_openTable? kept opened)
        written added
  | item path =>
      exact areWritten_head? (fun _ _ _ begun kept => Growth.areWritten_addItem? kept begun)
        written added
  | entry key value =>
      obtain ⟨setting, grown, read, changed, rfl⟩ := exists_of_add?_entry added
      have valueWritten := value.isWritten_setting? read
      exact Growth.areWritten_changeAt?
        (fun _ _ inserted kept => Growth.areWritten_insert? kept valueWritten inserted)
        written changed

/-- Every settings file that can be read is well formed. -/
theorem isWritten_read? {text : List Char} {settings : Setting}
    (read : read? text = some settings) :
    settings.IsWritten := by
  obtain ⟨statements, -, built⟩ := Option.bind_eq_some_iff.1 read
  obtain ⟨document, added, rfl⟩ := Option.map_eq_some_iff.1 built
  exact addAll?_preserves (fun reached => Growth.AreWritten reached.entries)
    (fun _ _ _ _ added written => areWritten_add? written added) Growth.areWritten_nil added

end Toml

end ShadowTaint
