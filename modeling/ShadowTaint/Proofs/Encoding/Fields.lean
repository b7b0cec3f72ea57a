import ShadowTaint.Encoding.Instruction
import ShadowTaint.Proofs.Json.Texts

/-!
# Fields are decoded as they were encoded

Numbers, names, lists and absent values come back from the JSON values that they are
written as, and a record finds its fields among the members of an object that holds
other members as well.
-/

namespace ShadowTaint
namespace Json

/-! ### Numbers -/

theorem below?_of_lt {bound number : Nat} (small : number < bound) :
    below? bound (.integer number) = some number := by
  have inRange : 0 ≤ (number : Int) ∧ (number : Int) < bound :=
    ⟨Int.natCast_nonneg number, Int.ofNat_lt.2 small⟩
  rw [below?, if_pos inRange, Int.toNat_natCast]

@[simp] theorem uint8?_toNat (value : UInt8) : uint8? (.integer value.toNat) = some value := by
  rw [uint8?, below?_of_lt value.toNat_lt, Option.map_some, UInt8.ofNat_toNat]

@[simp] theorem uint32?_toNat (value : UInt32) : uint32? (.integer value.toNat) = some value := by
  rw [uint32?, below?_of_lt value.toNat_lt, Option.map_some, UInt32.ofNat_toNat]

@[simp] theorem int32?_toInt (value : Int32) : int32? (.integer value.toInt) = some value := by
  have inRange : Int32.minValue.toInt ≤ value.toInt ∧ value.toInt ≤ Int32.maxValue.toInt :=
    ⟨value.minValue_le_toInt, value.toInt_le⟩
  rw [int32?, if_pos inRange, Int32.ofInt_toInt]

@[simp] theorem int64?_toInt (value : Int64) : int64? (.integer value.toInt) = some value := by
  have inRange : Int64.minValue.toInt ≤ value.toInt ∧ value.toInt ≤ Int64.maxValue.toInt :=
    ⟨value.minValue_le_toInt, value.toInt_le⟩
  rw [int64?, if_pos inRange, Int64.ofInt_toInt]

/-- Natural numbers of up to 64 bits can be written. -/
theorem Fits.natural (room : Nat) {number : Nat} (small : number < UInt64.size) :
    Fits room (.integer number) := by
  refine .integer room ⟨?_, Int.ofNat_lt.2 small⟩
  exact Int.le_trans (by decide : Int64.minValue.toInt ≤ 0) (Int.natCast_nonneg number)

theorem Fits.uint8 (room : Nat) (value : UInt8) : Fits room (.integer value.toNat) :=
  .natural room (Nat.lt_trans value.toNat_lt (by decide))

theorem Fits.uint32 (room : Nat) (value : UInt32) : Fits room (.integer value.toNat) :=
  .natural room (Nat.lt_trans value.toNat_lt (by decide))

theorem Fits.int64 (room : Nat) (value : Int64) : Fits room (.integer value.toInt) := by
  refine .integer room ⟨value.minValue_le_toInt, ?_⟩
  have high := value.toInt_lt
  rw [UInt64.size]
  omega

theorem Fits.int32 (room : Nat) (value : Int32) : Fits room (.integer value.toInt) := by
  rw [← Int32.toInt_toInt64]
  exact .int64 room value.toInt64

/-! ### Names, lists and absent values -/

variable {Value : Type} {decode : Json -> Option Value} {encode : Value -> Json}

@[simp] theorem boolean?_boolean (value : Bool) : boolean? (.boolean value) = some value := rfl

@[simp] theorem named?_string (loose : Bool) (ofName? : String -> Option Value) (text : String) :
    named? loose ofName? (.string text) = ofName? text := rfl

/-- Absence is told from every value, because none of them is written as null. -/
theorem nullable_ofOption
    (value? : Option Value)
    (decodes : ∀ value, decode (encode value) = some value)
    (solid : ∀ value, encode value ≠ .null) :
    nullable decode (ofOption encode value?) = some value? := by
  cases value? with
  | none => rfl
  | some value =>
      rw [ofOption, nullable, decodes]
      · rfl
      · exact solid value

theorem listOf_map
    (values : List Value)
    (decodes : ∀ value, decode (encode value) = some value) :
    listOf decode (.array (values.map encode)) = some values := by
  rw [listOf, items?]
  show (values.map encode).mapM decode = some values
  induction values with
  | nil => rfl
  | cons value rest inductionHypothesis =>
      rw [List.map_cons, List.mapM_cons, decodes, inductionHypothesis]
      rfl

theorem Fits.ofOption
    {room : Nat}
    (value? : Option Value)
    (fits : ∀ value, Fits room (encode value)) :
    Fits room (ofOption encode value?) := by
  cases value? with
  | none => exact .null room
  | some value => exact fits value

theorem Fits.list
    {room : Nat}
    (values : List Value)
    (fits : ∀ value, Fits room (encode value)) :
    Fits (room + 1) (.array (values.map encode)) := by
  refine .array ?_
  intro item mem
  obtain ⟨value, _, rfl⟩ := List.mem_map.1 mem
  exact fits value

/-! ### Records -/

namespace Record

variable {name other : String} {value : Json} {rest : List (String × Json)} {default : Value}

theorem get?_first : get? ⟨(name, value) :: rest⟩ name = some value := List.lookup_cons_self

theorem get?_behind (differs : name ≠ other) :
    get? ⟨(other, value) :: rest⟩ name = get? ⟨rest⟩ name := by
  rw [get?, List.lookup_cons, beq_eq_false_iff_ne.2 differs]
  rfl

@[simp] theorem required_first :
    required ⟨(name, value) :: rest⟩ name decode = decode value := by
  rw [required, get?_first, Option.bind_some]

@[simp] theorem required_behind (differs : name ≠ other) :
    required ⟨(other, value) :: rest⟩ name decode = required ⟨rest⟩ name decode := by
  rw [required, required, get?_behind differs]

@[simp] theorem optional_first :
    optional ⟨(name, value) :: rest⟩ name default decode = decode value := by
  rw [optional, get?_first]

@[simp] theorem optional_behind (differs : name ≠ other) :
    optional ⟨(other, value) :: rest⟩ name default decode =
      optional ⟨rest⟩ name default decode := by
  rw [optional, optional, get?_behind differs]

variable {names : List String} {before fields behind others : List (String × Json)}

/-- A record holds the members that are its fields, wherever they stand among others. -/
theorem ofMembers?_among
    (distinct : names.Nodup)
    (named : fields.map Prod.fst = names)
    (others : ∀ member ∈ before ++ behind, member.1 ∉ names) :
    ofMembers? names (before ++ fields ++ behind) = some ⟨fields⟩ := by
  have none {members : List (String × Json)} (other : ∀ member ∈ members, member.1 ∉ names) :
      (members.filter fun member => names.contains member.1) = [] :=
    List.filter_eq_nil_iff.2 fun member mem => by simpa using other member mem
  have all : (fields.filter fun member => names.contains member.1) = fields := by
    refine List.filter_eq_self.2 fun member mem => ?_
    rw [List.contains_iff_mem, ← named]
    exact List.mem_map_of_mem mem
  rw [List.forall_mem_append] at others
  rw [ofMembers?, List.filter_append, List.filter_append, none others.1, all, none others.2,
    List.nil_append, List.append_nil, named]
  exact if_pos distinct

/-- A record finds its fields before other members. -/
theorem ofMembers?_before
    (distinct : names.Nodup)
    (named : fields.map Prod.fst = names)
    (other : ∀ member ∈ others, member.1 ∉ names) :
    ofMembers? names (fields ++ others) = some ⟨fields⟩ := by
  have found := ofMembers?_among distinct named (List.nil_append others ▸ other)
  rwa [List.nil_append] at found

/-- A record finds its fields behind other members. -/
theorem ofMembers?_behind
    (distinct : names.Nodup)
    (named : fields.map Prod.fst = names)
    (other : ∀ member ∈ others, member.1 ∉ names) :
    ofMembers? names (others ++ fields) = some ⟨fields⟩ := by
  have found := ofMembers?_among distinct named (List.append_nil others ▸ other)
  rwa [List.append_nil] at found

/-- The fields of a record alone are the record. -/
theorem ofMembers?_self
    (distinct : names.Nodup)
    (named : fields.map Prod.fst = names) :
    ofMembers? names fields = some ⟨fields⟩ :=
  ofMembers?_behind distinct named (List.forall_mem_nil _)

end Record

variable {names : List String} {fields : List (String × Json)}

theorem record?_object
    (distinct : names.Nodup)
    (named : fields.map Prod.fst = names) :
    record? names (.object fields) = some ⟨fields⟩ :=
  Record.ofMembers?_self distinct named

theorem alternative?_object
    (loose : Bool)
    (distinct : names.Nodup)
    (named : fields.map Prod.fst = names) :
    alternative? loose names (.object fields) = some ⟨fields⟩ :=
  Record.ofMembers?_self distinct named

end Json

namespace Reg

@[simp] theorem ofJson?_toJson (loose : Bool) (reg : Reg) :
    ofJson? loose reg.toJson = some reg :=
  ofName?_name reg

@[simp] theorem fits (room : Nat) (reg : Reg) : Json.Fits room reg.toJson := .string room reg.name

end Reg

namespace RegList

theorem contains_foldl_insert (regs : List Reg) (list : RegList) (reg : Reg) :
    (regs.foldl insert list).contains reg = true ↔ list.contains reg = true ∨ reg ∈ regs := by
  induction regs generalizing list with
  | nil => simp
  | cons added rest inductionHypothesis =>
      rw [List.foldl_cons, inductionHypothesis, contains_insert, Bool.or_eq_true,
        decide_eq_true_iff, or_assoc, List.mem_cons]

/-- A list is determined by the registers in it. -/
theorem ext {first second : RegList}
    (same : ∀ reg, first.contains reg = second.contains reg) : first = second := by
  obtain ⟨first⟩ := first
  obtain ⟨second⟩ := second
  congr 1
  apply BitVec.eq_of_getLsbD_eq
  intro index inside
  exact same ⟨⟨index, inside⟩⟩

/-- The order of registers and their repetitions mean nothing, so the ascending list stands
for the set. -/
@[simp] theorem ofList_toList (list : RegList) : ofList list.toList = list := by
  apply ext
  intro reg
  rw [Bool.eq_iff_iff, ofList, contains_foldl_insert, contains_empty, mem_toList]
  exact or_iff_right Bool.false_ne_true

/-- Registers may be listed in any order, and more than once. -/
theorem ofJson?_array (loose : Bool) (regs : List Reg) :
    ofJson? loose (.array (regs.map Reg.toJson)) = some (ofList regs) := by
  rw [ofJson?, Json.listOf_map regs (Reg.ofJson?_toJson loose), Option.map_some]

@[simp] theorem ofJson?_toJson (loose : Bool) (list : RegList) :
    ofJson? loose list.toJson = some list := by
  rw [toJson, ofJson?_array, ofList_toList]

@[simp] theorem fits (room : Nat) (list : RegList) : Json.Fits (room + 1) list.toJson :=
  .list _ (Reg.fits room)

end RegList
end ShadowTaint
