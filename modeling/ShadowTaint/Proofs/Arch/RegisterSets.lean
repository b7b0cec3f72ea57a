import Mathlib.Data.Finset.Card
import ShadowTaint.Proofs.Block.Slots
import ShadowTaint.Proofs.Encoding.Fields
import ShadowTaint.Proofs.Flow.Updates
import ShadowTaint.Proofs.Json.Texts

/-!
# Register lists as sorted sets

A register list has three faces: the bits that tell which registers are in it, their
number, and the registers one after the other. The three agree for every list that was
built from given registers: it holds these and no others, counts each of them once, and
lists them in ascending order, however they were given.
-/

namespace ShadowTaint

namespace Json

/-- An array is decoded to the values that its items are decoded to, one by one. -/
theorem listOf_array_eq_some_iff
    {Value : Type}
    {decode : Json -> Option Value}
    {items : List Json}
    {values : List Value} :
    listOf decode (.array items) = some values ↔ items.map decode = values.map some := by
  show items.mapM decode = some values ↔ _
  induction items generalizing values with
  | nil => cases values <;> simp
  | cons item rest inductionHypothesis =>
      have step : (item :: rest).mapM decode = some values ↔
          ∃ value, decode item = some value ∧
            ∃ others, rest.mapM decode = some others ∧ value :: others = values := by
        rw [List.mapM_cons]
        simp only [Option.bind_eq_bind, Option.bind_eq_some_iff, Option.pure_def,
          Option.some.injEq]
      rw [step, List.map_cons]
      constructor
      · rintro ⟨value, decoded, others, decodedRest, rfl⟩
        rw [decoded, inductionHypothesis.1 decodedRest, List.map_cons]
      · intro same
        obtain ⟨value, others, rfl, decoded, decodedRest⟩ := List.map_eq_cons_iff.1 same.symm
        exact ⟨value, decoded.symm, others, inductionHypothesis.2 decodedRest.symm, rfl⟩

end Json

namespace RegList

/-- A register list is the sorted set of given registers. -/
structure IsSetOf (list : RegList) (regs : List Reg) : Prop where
  /-- Its bits are those of the given registers. -/
  contains_iff : ∀ reg, list.contains reg = true ↔ reg ∈ regs
  /-- It lists the given registers. -/
  mem_toList_iff : ∀ reg, reg ∈ list.toList ↔ reg ∈ regs
  /-- It lists each register once, in ascending order. -/
  ascending : list.toList.Pairwise fun first second => first.index < second.index
  /-- It counts the registers that it lists. -/
  length_eq : list.toList.length = list.size
  /-- It counts the given registers without repetitions. -/
  size_eq : list.size = regs.toFinset.card

variable {list : RegList} {reg : Reg} {regs others : List Reg}

theorem contains_ofList : (ofList regs).contains reg = true ↔ reg ∈ regs := by
  rw [ofList, contains_foldl_insert, contains_empty]
  exact or_iff_right Bool.false_ne_true

/-- The bits decide everything else about a list. -/
theorem isSetOf_of_contains
    (contains : ∀ reg, list.contains reg = true ↔ reg ∈ regs) :
    list.IsSetOf regs where
  contains_iff := contains
  mem_toList_iff reg := mem_toList.trans (contains reg)
  ascending := list.pairwise_toList
  length_eq := list.length_toList
  size_eq := by
    have members : list.toList.toFinset = regs.toFinset := by
      ext reg
      rw [List.mem_toFinset, List.mem_toFinset, mem_toList, contains]
    rw [← members, List.toFinset_card_of_nodup list.nodup_toList, list.length_toList]

/-- There is one set of given registers, and it is the list that is built from them. -/
theorem isSetOf_iff : list.IsSetOf regs ↔ list = ofList regs := by
  constructor
  · intro isSet
    apply ext
    intro reg
    rw [Bool.eq_iff_iff, isSet.contains_iff, contains_ofList]
  · rintro rfl
    exact isSetOf_of_contains fun _ => contains_ofList

/-- Only which registers are given matters, not their order or how often. -/
theorem ofList_eq_iff : ofList regs = ofList others ↔ ∀ reg, reg ∈ regs ↔ reg ∈ others := by
  constructor
  · intro same reg
    rw [← contains_ofList, same, contains_ofList]
  · intro same
    apply isSetOf_iff.1
    exact isSetOf_of_contains fun reg => contains_ofList.trans (same reg)

/-- A register that is added joins those that are there. -/
theorem insert_isSetOf (list : RegList) (reg : Reg) :
    (list.insert reg).IsSetOf (reg :: list.toList) := by
  apply isSetOf_of_contains
  intro other
  rw [contains_insert, Bool.or_eq_true, decide_eq_true_iff, List.mem_cons, mem_toList, or_comm]

theorem insert_of_contains (present : list.contains reg = true) : list.insert reg = list := by
  apply ext
  intro other
  rw [contains_insert, Bool.eq_iff_iff, Bool.or_eq_true, decide_eq_true_iff, or_iff_left_iff_imp]
  rintro rfl
  exact present

theorem size_insert (list : RegList) (reg : Reg) :
    (list.insert reg).size = list.size + if list.contains reg then 0 else 1 := by
  split
  · next present => rw [insert_of_contains present, Nat.add_zero]
  · next absent =>
      have fresh : reg ∉ list.toList := fun listed => absent (mem_toList.1 listed)
      rw [(insert_isSetOf list reg).size_eq,
        List.toFinset_card_of_nodup (List.nodup_cons.2 ⟨fresh, list.nodup_toList⟩),
        List.length_cons, list.length_toList]

/-- An array denotes the set of the registers that its items denote. -/
theorem ofJson?_array_eq_some_iff {loose : Bool} {items : List Json} :
    ofJson? loose (.array items) = some list ↔
      ∃ regs, items.map (Reg.ofJson? loose) = regs.map some ∧ list.IsSetOf regs := by
  rw [ofJson?, Option.map_eq_some_iff]
  apply exists_congr
  intro regs
  rw [Json.listOf_array_eq_some_iff, isSetOf_iff, eq_comm (a := ofList regs)]

/-- The text of an array of names is read as the set of the registers with these names. -/
theorem read_names (loose : Bool) (names : List String) :
    (Json.read (Json.array (names.map Json.string)).compact.toList).bind (ofJson? loose) =
      (names.mapM Reg.ofName?).map ofList := by
  have fits : Json.Fits Json.depthLimit (.array (names.map Json.string)) :=
    .list names fun name => .string _ name
  rw [fits.read_compact, Option.bind_some, ofJson?, Json.listOf, Json.items?]
  show ((names.map Json.string).mapM (Reg.ofJson? loose)).map ofList = _
  rw [List.mapM_map]
  rfl

/-- A register list that is built from given registers, or read from an array or a text of
their names, is their sorted set: it holds exactly these, counts each of them once, and
lists them in ascending order. So order and repetitions do not matter, a list comes back
from the registers that it lists, and a register that is added twice is added once. -/
theorem ofList_is_sorted_set (regs : List Reg) :
    (∀ list : RegList, list.IsSetOf regs ↔ list = ofList regs) ∧
    (∀ others, ofList regs = ofList others ↔ ∀ reg, reg ∈ regs ↔ reg ∈ others) ∧
    (∀ (loose : Bool) (items : List Json) (list : RegList),
      ofJson? loose (.array items) = some list ↔
        ∃ named, items.map (Reg.ofJson? loose) = named.map some ∧ list.IsSetOf named) ∧
    (∀ (loose : Bool) (names : List String),
      (Json.read (Json.array (names.map Json.string)).compact.toList).bind (ofJson? loose) =
        (names.mapM Reg.ofName?).map ofList) ∧
    (∀ list : RegList, ofList list.toList = list) ∧
    ∀ (list : RegList) (reg : Reg),
      (list.insert reg).IsSetOf (reg :: list.toList) ∧
      (list.insert reg).size = list.size + (if list.contains reg then 0 else 1) ∧
      (list.insert reg).insert reg = list.insert reg := by
  refine ⟨fun _ => isSetOf_iff, fun _ => ofList_eq_iff, fun _ _ _ => ofJson?_array_eq_some_iff,
    read_names, ofList_toList, fun list reg => ⟨insert_isSetOf list reg, size_insert list reg, ?_⟩⟩
  apply insert_of_contains
  rw [(insert_isSetOf list reg).contains_iff]
  exact List.mem_cons_self

end RegList
end ShadowTaint
