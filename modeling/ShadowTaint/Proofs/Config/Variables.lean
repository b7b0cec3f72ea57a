import ShadowTaint.Config.Environment
import ShadowTaint.Proofs.Config.Overlay

/-!
# Variables of the environment

A variable that names a section and a key in it gives a value to that key and changes
nothing else in the section. If no two variables name the same key of the section, and all
others have paths beside it, then a key of the section has the value of the variable that
names it, in whatever order the variables come.
-/

namespace ShadowTaint

namespace Environment

/-- The section and the key in it that a variable with the given name sets. -/
def target? (name : String) : Option (String × String) :=
  match (key? name).map SettingKey.steps with
  | some [.name wanted, .name key] => some (wanted, key)
  | _ => none

/-- Two variables do not set the same key of a section. -/
def Apart (wanted : String) (first second : String × String) : Prop :=
  (target? first.1).map Prod.fst = some wanted -> target? first.1 ≠ target? second.1

instance (wanted : String) (first second : String × String) :
    Decidable (Apart wanted first second) :=
  inferInstanceAs (Decidable (_ -> _))

/-- A variable sets a key of a section, or is a setting beside it, or no setting. -/
def IsFlatVariable (wanted variableName : String) : Prop :=
  (target? variableName).map Prod.fst = some wanted ∨
    ∀ path ∈ key? variableName, SettingKey.IsBeside wanted (SettingKey.steps path)

instance (wanted variableName : String) : Decidable (IsFlatVariable wanted variableName) :=
  inferInstanceAs (Decidable (_ ∨ _))

/-- Each variable sets a key of a section, or is a setting beside it or none, and no two set
the same key of the section. -/
structure IsFlat (entries : List (String × String)) (wanted : String) : Prop where
  each : ∀ entry ∈ entries, IsFlatVariable wanted entry.1
  distinct : entries.Pairwise (Apart wanted)

instance (entries : List (String × String)) : DecidablePred (IsFlat entries) := fun wanted =>
  decidable_of_iff
    ((∀ entry ∈ entries, IsFlatVariable wanted entry.1) ∧ entries.Pairwise (Apart wanted))
    ⟨fun both => ⟨both.1, both.2⟩, fun flat => ⟨flat.each, flat.distinct⟩⟩

/-- Some variable sets a key of a section. -/
def HasSection (entries : List (String × String)) (name : String) : Prop :=
  ∃ entry ∈ entries, (target? entry.1).map Prod.fst = some name

instance (entries : List (String × String)) (name : String) : Decidable (HasSection entries name) :=
  inferInstanceAs (Decidable (∃ entry ∈ entries, _ = _))

/-- The setting that a variable gives to a key of a section. -/
def value? (entries : List (String × String)) (name key : String) : Option Setting :=
  (entries.find? fun entry => target? entry.1 == some (name, key)).map fun entry => value entry.2

variable {settings : Setting} {entries : List (String × String)} {name key : String}

/-- The value of a variable is a scalar. -/
theorem isScalar_value (text : String) : (value text).IsScalar := by
  rw [value]
  split
  · trivial
  · split
    · trivial
    · split
      · trivial
      · split <;> trivial

/-- Settings with a value under a key of a section. -/
def give (settings : Setting) (name key : String) (value : Setting) : Setting :=
  settings.put name (((settings.get? name).getD .absent).put key value)

theorem steps_of_target? {variableName path : String}
    (named : key? variableName = some path)
    (found : target? variableName = some (name, key)) :
    SettingKey.steps path = [.name name, .name key] := by
  rw [target?, named, Option.map_some] at found
  split at found
  · rename_i same
    cases found
    exact Option.some.inj same
  · cases found

/-- A variable that sets a key of a section gives it its value. -/
theorem assign_of_target? {entry : String × String} (found : target? entry.1 = some (name, key)) :
    assign settings entry = .ok (give settings name key (value entry.2)) := by
  cases named : key? entry.1 with
  | none =>
      rw [target?, named] at found
      cases found
  | some path =>
      rw [assign, named]
      dsimp only
      rw [Setting.assignKey, steps_of_target? named found, Setting.assignPath, Setting.assignPath,
        Setting.assign_eq_put, (isScalar_value entry.2).isLeaf.laidOver_eq]
      · rfl
      · intro same
        cases same

theorem within?_give (value : Setting) (other : String) :
    (give settings name key value).within? name other =
      if key = other then some value else settings.within? name other := by
  rw [Setting.within?, Setting.within?, give, Setting.get?_put, if_pos rfl, Option.bind_some,
    Setting.get?_put]
  by_cases same : other = key
  · rw [if_pos same, if_pos same.symm]
  · rw [if_neg same, if_neg (Ne.symm same)]
    cases settings.get? name <;> rfl

section Cons

variable {entry : String × String} {rest : List (String × String)} {after : Setting}

theorem hasSection_cons_iff :
    HasSection (entry :: rest) name ↔
      (target? entry.1).map Prod.fst = some name ∨ HasSection rest name := by
  simp only [HasSection, List.mem_cons, or_and_right, exists_or, exists_eq_left]

theorem value?_cons_of_eq (found : target? entry.1 = some (name, key)) :
    value? (entry :: rest) name key = some (value entry.2) := by
  rw [value?, List.find?_cons, found, beq_self_eq_true]
  rfl

theorem value?_cons_of_ne (other : target? entry.1 ≠ some (name, key)) :
    value? (entry :: rest) name key = value? rest name key := by
  rw [value?, List.find?_cons, beq_eq_false_iff_ne.2 other]
  rfl

theorem IsFlat.tail (flat : IsFlat (entry :: rest) name) : IsFlat rest name where
  each other member := flat.each other (List.mem_cons_of_mem _ member)
  distinct := (List.pairwise_cons.1 flat.distinct).2

/-- No later variable sets the key that the first one sets. -/
theorem IsFlat.target?_ne
    (flat : IsFlat (entry :: rest) name)
    (found : target? entry.1 = some (name, key))
    (other : String × String)
    (member : other ∈ rest) :
    target? other.1 ≠ some (name, key) := by
  intro same
  exact (List.pairwise_cons.1 flat.distinct).1 other member (by rw [found]; rfl)
    (found.trans same.symm)

/-- A variable of flat ones that sets no key of the section leaves the section as it is. -/
theorem IsFlat.exists_assign
    (flat : IsFlat (entry :: rest) name)
    (others : (target? entry.1).map Prod.fst ≠ some name) :
    ∃ next, assign settings entry = .ok next ∧ next.get? name = settings.get? name := by
  rw [assign]
  cases named : key? entry.1 with
  | none => exact ⟨settings, rfl, rfl⟩
  | some path =>
      have beside := (flat.each entry List.mem_cons_self).resolve_left others path named
      exact Setting.exists_assignPath_beside beside (value entry.2) settings

/-- The variable that sets a key decides what its value is. -/
theorem value?_of_mem
    (flat : IsFlat entries name)
    (member : entry ∈ entries)
    (sets : target? entry.1 = some (name, key)) :
    value? entries name key = some (value entry.2) := by
  induction entries with
  | nil => cases member
  | cons first rest inductionHypothesis =>
      obtain rfl | later := List.mem_cons.1 member
      · exact value?_cons_of_eq sets
      · rw [value?_cons_of_ne fun same => flat.target?_ne same entry later sets]
        exact inductionHypothesis flat.tail later

/-! ## Variables laid over settings -/

/-- A section behind the variables of an environment, and before them. -/
structure Overlaid (entries : List (String × String)) (name : String) (before after : Setting) :
    Prop where
  within? : ∀ key, after.within? name key = (value? entries name key).or (before.within? name key)
  hasTable : HasSection entries name -> after.HasTable name
  others : ¬HasSection entries name -> after.get? name = before.get? name

/-- What a section becomes depends on what it was, and on nothing else. -/
theorem Overlaid.congr
    {before : Setting}
    (overlaid : Overlaid entries name before after)
    (same : before.get? name = settings.get? name) :
    Overlaid entries name settings after where
  within? key := by
    rw [overlaid.within?, Setting.within?, same]
    rfl
  hasTable := overlaid.hasTable
  others lacks := (overlaid.others lacks).trans same

/-- A variable that sets no key of a section changes nothing in it. -/
theorem Overlaid.cons_of_ne
    (others : (target? entry.1).map Prod.fst ≠ some name)
    (overlaid : Overlaid rest name settings after) :
    Overlaid (entry :: rest) name settings after := by
  have sections : HasSection (entry :: rest) name ↔ HasSection rest name := by
    rw [hasSection_cons_iff, or_iff_right others]
  refine ⟨fun key => ?_, ?_, ?_⟩
  · have different : target? entry.1 ≠ some (name, key) := fun same => others (by rw [same]; rfl)
    rw [value?_cons_of_ne different]
    exact overlaid.within? key
  · rw [sections]
    exact overlaid.hasTable
  · rw [sections]
    exact overlaid.others

/-- A variable gives its value to a key that no other variable sets. -/
theorem Overlaid.cons_of_some
    (found : target? entry.1 = some (name, key))
    (alone : ∀ other ∈ rest, target? other.1 ≠ some (name, key))
    (overlaid : Overlaid rest name (give settings name key (value entry.2)) after) :
    Overlaid (entry :: rest) name settings after := by
  have has : HasSection (entry :: rest) name := hasSection_cons_iff.2 (.inl (by rw [found]; rfl))
  refine ⟨fun otherKey => ?_, fun _ => ?_, fun lacks => absurd has lacks⟩
  · rw [overlaid.within?, within?_give]
    by_cases here : key = otherKey
    · subst here
      have last : value? rest name key = none := by
        rw [value?, Option.map_eq_none_iff, List.find?_eq_none]
        exact fun later member => by simpa using alone later member
      rw [last, value?_cons_of_eq found, if_pos rfl]
      rfl
    · have different : target? entry.1 ≠ some (name, otherKey) := fun same =>
        here (congrArg Prod.snd (Option.some.inj (found.symm.trans same)))
      rw [value?_cons_of_ne different, if_neg here]
  · by_cases later : HasSection rest name
    · exact overlaid.hasTable later
    · rw [Setting.HasTable, overlaid.others later, give, Setting.get?_put, if_pos rfl]
      exact ⟨_, rfl⟩

end Cons

/-- Variables that are flat at a section can be laid over any settings. -/
theorem overlay_flat (flat : IsFlat entries name) :
    ∃ after, overlay settings entries = .ok after ∧ Overlaid entries name settings after := by
  induction entries generalizing settings with
  | nil =>
      refine ⟨settings, rfl, fun _ => rfl, ?_, fun _ => rfl⟩
      rintro ⟨_, member, -⟩
      cases member
  | cons entry rest inductionHypothesis =>
      rw [overlay, List.foldlM_cons]
      by_cases own : (target? entry.1).map Prod.fst = some name
      · obtain ⟨⟨_, key⟩, found, rfl⟩ := Option.map_eq_some_iff.1 own
        obtain ⟨after, laid, overlaid⟩ := inductionHypothesis flat.tail
        rw [assign_of_target? found]
        exact ⟨after, laid, overlaid.cons_of_some found (flat.target?_ne found)⟩
      · obtain ⟨next, assigned, same⟩ : ∃ next, assign settings entry = .ok next ∧
            next.get? name = settings.get? name := flat.exists_assign own
        obtain ⟨after, laid, overlaid⟩ := inductionHypothesis flat.tail
        rw [assigned]
        exact ⟨after, laid, (overlaid.congr same).cons_of_ne own⟩

end Environment

end ShadowTaint
