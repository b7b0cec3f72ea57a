import ShadowTaint.Config.Path

/-!
# Settings laid over settings

Laying the entries of a table over settings changes what is under their names, and
nothing else: a table grows or replaces entries of what is there, and anything else takes the
place of what is there.

A key can be laid over any settings if the positions in its path count from the start of a
list and stay below the limit. If the path begins with another name than that of a section,
the section stays what it was. Settings that are flat at a section change the keys of the
section that they name, unless they have a scalar in its place.
-/

namespace ShadowTaint

namespace Setting

/-! ## Tables and scalars -/

/-- A setting is neither a table nor a list. -/
def IsScalar : Setting -> Prop
  | table _ | list _ => False
  | absent | boolean _ | integer _ | real _ | text _ => True

instance : DecidablePred IsScalar := fun setting =>
  match setting with
  | table _ | list _ => isFalse id
  | absent | boolean _ | integer _ | real _ | text _ => isTrue trivial

/-- A setting is no table. -/
def IsLeaf : Setting -> Prop
  | table _ => False
  | absent | boolean _ | integer _ | real _ | text _ | list _ => True

instance : DecidablePred IsLeaf := fun setting =>
  match setting with
  | table _ => isFalse id
  | absent | boolean _ | integer _ | real _ | text _ | list _ => isTrue trivial

/-- A setting is a table. -/
def IsTable (setting : Setting) : Prop := ∃ entries, setting = table entries

/-- There is a table under a name. -/
def HasTable (settings : Setting) (name : String) : Prop :=
  ∃ entries, settings.get? name = some (table entries)

/-- The setting under a key of a section. -/
def within? (settings : Setting) (name key : String) : Option Setting :=
  (settings.get? name).bind fun inner => inner.get? key

/-- What is there after a setting was laid over what was there before, if anything was. -/
def laidOver (below : Option Setting) : Setting -> Setting
  | table incoming => (below.getD (table [])).overlay incoming
  | other => other

variable {target value : Setting} {entries : List (String × Setting)} {name key : String}

theorem IsScalar.isLeaf (scalar : value.IsScalar) : value.IsLeaf := by
  cases value with
  | table | list => exact scalar.elim
  | absent | boolean | integer | real | text => trivial

theorem IsLeaf.laidOver_eq (leaf : value.IsLeaf) (below : Option Setting) :
    value.laidOver below = value := by
  cases value with
  | table => exact leaf.elim
  | absent | boolean | integer | real | text | list => rfl

theorem IsScalar.get?_eq_none (scalar : value.IsScalar) : value.get? key = none := by
  cases value with
  | table | list => exact scalar.elim
  | absent | boolean | integer | real | text => rfl

theorem isTable_put : (target.put name value).IsTable := ⟨_, rfl⟩

/-! ## Overlays -/

theorem assign_eq_put :
    target.assign name value = target.put name (value.laidOver (target.get? name)) := by
  cases value with
  | table incoming => rw [assign, laidOver]
  | absent | boolean | integer | real | text | list =>
      rw [assign, laidOver]
      all_goals
        intro _ same
        cases same

theorem IsTable.overlay (isTable : target.IsTable) (entries : List (String × Setting)) :
    (target.overlay entries).IsTable := by
  induction entries generalizing target with
  | nil => exact isTable
  | cons entry rest inductionHypothesis =>
      rw [Setting.overlay, assign_eq_put]
      exact inductionHypothesis isTable_put

theorem lookup_eq_none_of_notMem (unnamed : name ∉ entries.map Prod.fst) :
    entries.lookup name = none := by
  rw [List.lookup_eq_none_iff]
  rintro entry member
  have different : name ≠ entry.1 := fun same => unnamed (same ▸ List.mem_map_of_mem member)
  simpa using different

/-- Behind an overlay there is under every name what was there before, with the entry of
that name laid over it. -/
theorem get?_overlay (distinct : (entries.map Prod.fst).Nodup) :
    (target.overlay entries).get? name =
      match entries.lookup name with
      | some value => some (value.laidOver (target.get? name))
      | none => target.get? name := by
  induction entries generalizing target with
  | nil => rw [overlay, List.lookup_nil]
  | cons entry rest inductionHypothesis =>
      obtain ⟨first, value⟩ := entry
      obtain ⟨fresh, distinctRest⟩ := List.nodup_cons.1 distinct
      rw [overlay, inductionHypothesis distinctRest, assign_eq_put, get?_put]
      by_cases here : name = first
      · subst here
        -- No later entry has this name, so what is laid here stays.
        rw [lookup_eq_none_of_notMem fresh, List.lookup_cons_self, if_pos rfl]
      · rw [List.lookup_cons, beq_eq_false_iff_ne.2 here, if_neg here]

/-- What is no table takes the place of what was under its name. -/
theorem get?_overlay_leaves
    (distinct : (entries.map Prod.fst).Nodup)
    (leaves : ∀ entry ∈ entries, entry.2.IsLeaf) :
    (target.overlay entries).get? name = (entries.lookup name).or (target.get? name) := by
  rw [get?_overlay distinct]
  cases found : entries.lookup name with
  | none => rfl
  | some value =>
      obtain ⟨before, behind, split, -⟩ := List.lookup_eq_some_iff.1 found
      have leaf : value.IsLeaf := leaves (name, value) (by simp [split])
      exact congrArg some (leaf.laidOver_eq _)

/-- What is under a name behind an entry depends on what was there before, and on nothing
else. -/
theorem get?_assign_congr
    {other : Setting}
    (same : target.get? name = other.get? name)
    (first : String) :
    (target.assign first value).get? name = (other.assign first value).get? name := by
  rw [assign_eq_put, assign_eq_put, get?_put, get?_put]
  by_cases here : name = first
  · subst here
    rw [if_pos rfl, if_pos rfl, same]
  · rw [if_neg here, if_neg here, same]

theorem get?_assign_of_ne
    {first : String}
    (different : first ≠ name) :
    (target.assign first value).get? name = target.get? name := by
  rw [assign_eq_put, get?_put, if_neg different.symm]

end Setting

/-! ## Paths -/

/-- A step to a name, or to a position that counts from the start of a list and stays below
the limit. -/
def PathStep.IsForward : PathStep -> Prop
  | .name _ => True
  | .position index => 0 ≤ index ∧ index < Setting.listLimit

instance : DecidablePred PathStep.IsForward := fun step =>
  match step with
  | .name _ => isTrue trivial
  | .position index => inferInstanceAs (Decidable (0 ≤ index ∧ index < Setting.listLimit))

namespace SettingKey

/-- The positions in a key count from the start of a list, and stay below the limit. -/
def IsForward (key : String) : Prop := ∀ step ∈ steps key, step.IsForward

/-- A path begins with another name than that of a section, and stays in its lists. -/
def IsBeside (wanted : String) : List PathStep -> Prop
  | .name other :: rest => other ≠ wanted ∧ ∀ step ∈ rest, step.IsForward
  | _ => False

instance (wanted : String) : DecidablePred (IsBeside wanted) := fun steps =>
  match steps with
  | .name other :: rest =>
      inferInstanceAs (Decidable (other ≠ wanted ∧ ∀ step ∈ rest, step.IsForward))
  | .position _ :: _ | [] => isFalse id

end SettingKey

namespace Setting

variable {steps : List PathStep}

theorem exists_assignPath
    (forward : ∀ step ∈ steps, step.IsForward)
    (value target : Setting) :
    ∃ after, target.assignPath value steps = .ok after := by
  induction steps generalizing target with
  | nil => exact ⟨value, rfl⟩
  | cons step rest inductionHypothesis =>
      obtain ⟨stepForward, restForward⟩ := List.forall_mem_cons.1 forward
      cases step with
      | name name =>
          cases rest with
          | nil => exact ⟨_, rfl⟩
          | cons next others =>
              obtain ⟨after, assigned⟩ :=
                inductionHypothesis restForward ((target.get? name).getD absent)
              rw [assignPath, assigned]
              · exact ⟨_, rfl⟩
              · exact List.cons_ne_nil _ _
      | position index =>
          have found : place target.items.length index = .ok index.toNat := by
            rw [place, if_pos stepForward.1, if_pos stepForward.2]
          obtain ⟨after, assigned⟩ :=
            inductionHypothesis restForward (target.items[index.toNat]?.getD absent)
          rw [assignPath, found]
          change ∃ after, (do
            let inner ← assignPath (target.items[index.toNat]?.getD absent) value rest
            return target.putItem index.toNat inner) = Except.ok after
          rw [assigned]
          exact ⟨_, rfl⟩

/-- A path beside a section leaves it as it is. -/
theorem exists_assignPath_beside
    {wanted : String}
    (beside : SettingKey.IsBeside wanted steps)
    (value target : Setting) :
    ∃ after, target.assignPath value steps = .ok after ∧
      after.get? wanted = target.get? wanted := by
  cases steps with
  | nil => exact beside.elim
  | cons step rest =>
      cases step with
      | position => exact beside.elim
      | name other =>
          obtain ⟨different, forward⟩ := beside
          cases rest with
          | nil => exact ⟨_, rfl, get?_assign_of_ne different⟩
          | cons next others =>
              obtain ⟨inner, assigned⟩ :=
                exists_assignPath forward value ((target.get? other).getD absent)
              rw [assignPath, assigned]
              · refine ⟨_, rfl, ?_⟩
                rw [get?_put, if_neg different.symm]
              · exact List.cons_ne_nil _ _

end Setting

namespace Setting

variable {target value settings : Setting} {entries : List (String × Setting)} {name key : String}

/-! ## Flat settings -/

/-- A setting is a scalar, or a table without tables in it. -/
def IsShallow : Setting -> Prop
  | table entries => ∀ entry ∈ entries, entry.2.IsLeaf
  | other => other.IsScalar

instance : DecidablePred IsShallow := fun setting =>
  match setting with
  | table entries => inferInstanceAs (Decidable (∀ entry ∈ entries, entry.2.IsLeaf))
  | list _ => isFalse id
  | absent | boolean _ | integer _ | real _ | text _ => isTrue trivial

/-- An entry is the section itself: its key is no longer path, and its setting is shallow. -/
structure IsSection (wanted : String) (entry : String × Setting) : Prop where
  named : entry.1 = wanted
  single : SettingKey.steps entry.1 = [.name wanted]
  shallow : entry.2.IsShallow

/-- An entry has another name than a section, and a path beside it. -/
structure IsElsewhere (wanted : String) (entry : String × Setting) : Prop where
  different : entry.1 ≠ wanted
  beside : SettingKey.IsBeside wanted (SettingKey.steps entry.1)

/-- Settings are flat at a section: the section is shallow, and every other path is beside
it. -/
def IsFlat (settings : Setting) (wanted : String) : Prop :=
  ∀ entry ∈ settings.entries, IsSection wanted entry ∨ IsElsewhere wanted entry

instance (wanted : String) : DecidablePred (IsSection wanted) := fun entry =>
  decidable_of_iff
    (entry.1 = wanted ∧ SettingKey.steps entry.1 = [.name wanted] ∧ entry.2.IsShallow)
    ⟨fun all => ⟨all.1, all.2.1, all.2.2⟩, fun own => ⟨own.named, own.single, own.shallow⟩⟩

instance (wanted : String) : DecidablePred (IsElsewhere wanted) := fun entry =>
  decidable_of_iff
    (entry.1 ≠ wanted ∧ SettingKey.IsBeside wanted (SettingKey.steps entry.1))
    ⟨fun both => ⟨both.1, both.2⟩, fun elsewhere => ⟨elsewhere.different, elsewhere.beside⟩⟩

instance (settings : Setting) : DecidablePred settings.IsFlat := fun wanted =>
  inferInstanceAs
    (Decidable (∀ entry ∈ settings.entries, IsSection wanted entry ∨ IsElsewhere wanted entry))

/-- No name occurs twice, neither in settings nor in a table of them. -/
structure NamedOnce (settings : Setting) : Prop where
  outer : (settings.entries.map Prod.fst).Nodup
  inner : ∀ entry ∈ settings.entries, (entry.2.entries.map Prod.fst).Nodup

theorem mem_entries_of_get? (found : settings.get? name = some value) :
    (name, value) ∈ settings.entries := by
  obtain ⟨before, behind, split, -⟩ := List.lookup_eq_some_iff.1 found
  simp [split]

/-- A section of flat settings is shallow. -/
theorem IsFlat.shallow (flat : settings.IsFlat name) (found : settings.get? name = some value) :
    value.IsShallow :=
  (flat _ (mem_entries_of_get? found)).elim IsSection.shallow fun elsewhere =>
    absurd rfl elsewhere.different

/-- Under the name of a section, flat settings have nothing, a scalar or a table. -/
theorem IsFlat.get?_cases (flat : settings.IsFlat name) :
    settings.get? name = none ∨
      (∃ value, settings.get? name = some value ∧ value.IsScalar) ∨ settings.HasTable name := by
  cases found : settings.get? name with
  | none => exact .inl rfl
  | some value =>
      have shallow := flat.shallow found
      cases value with
      | table inner => exact .inr (.inr ⟨inner, found⟩)
      | absent | boolean | integer | real | text | list => exact .inr (.inl ⟨_, rfl, shallow⟩)

/-- Flat settings without the name of a section leave it as it is. -/
theorem get?_overlay_of_none
    (once : settings.NamedOnce)
    (unnamed : settings.get? name = none) :
    (target.overlay settings.entries).get? name = target.get? name := by
  rw [get?_overlay once.outer]
  change settings.entries.lookup name = none at unnamed
  rw [unnamed]

/-- A scalar under the name of a section takes the place of the section. -/
theorem get?_overlay_of_scalar
    (once : settings.NamedOnce)
    (found : settings.get? name = some value)
    (scalar : value.IsScalar) :
    (target.overlay settings.entries).get? name = some value := by
  rw [get?_overlay once.outer]
  change settings.entries.lookup name = some value at found
  rw [found]
  exact congrArg some (scalar.isLeaf.laidOver_eq _)

/-- A table under the name of a section takes the place of the keys that it has. -/
theorem get?_overlay_of_table
    (flat : settings.IsFlat name)
    (once : settings.NamedOnce)
    (found : settings.get? name = some (table entries))
    (below : ∀ other, target.get? name = some other -> other.IsTable) :
    ∃ after, (target.overlay settings.entries).get? name = some (table after) ∧
      ∀ key, after.lookup key = (entries.lookup key).or (target.within? name key) := by
  have member := mem_entries_of_get? found
  have leaves : ∀ deeper ∈ entries, deeper.2.IsLeaf := flat.shallow found
  rw [get?_overlay once.outer]
  change settings.entries.lookup name = some (table entries) at found
  rw [found]
  have isTable : ((target.get? name).getD (table [])).IsTable := by
    cases before : target.get? name with
    | none => exact ⟨[], rfl⟩
    | some other => exact below other before
  obtain ⟨after, overlaid⟩ := isTable.overlay entries
  refine ⟨after, congrArg some overlaid, fun key => ?_⟩
  have keys : (((target.get? name).getD (table [])).overlay entries).get? key =
      (entries.lookup key).or (((target.get? name).getD (table [])).get? key) :=
    get?_overlay_leaves (once.inner _ member) leaves
  rw [overlaid] at keys
  refine keys.trans (congrArg _ ?_)
  rw [within?]
  cases target.get? name <;> rfl

end Setting

end ShadowTaint
