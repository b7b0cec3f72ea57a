import ShadowTaint.Proofs.Encoding.Fields

/-!
# Instructions are decoded as they were encoded

Every part of an instruction comes back from the value it is written as: operands,
memory operands, block transfers, and the operation of each of the sixteen families
with the fields of its family. The fields of an instruction and those of its operation
stand in one object, and no name is used for both.
-/

namespace ShadowTaint

open Json (Record)

namespace ShiftAmount

@[simp] theorem ofJson?_toJson (loose : Bool) (amount : ShiftAmount) :
    ofJson? loose amount.toJson = some amount := by
  cases amount with
  | immediate amount => rw [toJson, ofJson?, Json.uint8?_toNat, Option.map_some]
  | register reg => rw [toJson, ofJson?, Reg.ofJson?_toJson, Option.map_some]

theorem fits (room : Nat) (amount : ShiftAmount) : Json.Fits (room + 1) amount.toJson := by
  cases amount with
  | immediate amount => exact .object (List.forall_mem_singleton.2 (.uint8 room amount))
  | register reg => exact .object (List.forall_mem_singleton.2 (reg.fits room))

end ShiftAmount

namespace Operand

@[simp] theorem ofJson?_toJson (loose : Bool) (operand : Operand) :
    ofJson? loose operand.toJson = some operand := by
  cases operand with
  | register reg => rw [toJson, ofJson?, Reg.ofJson?_toJson, Option.map_some]
  | immediate value => rw [toJson, ofJson?, Json.int64?_toInt, Option.map_some]
  | shifted reg amount =>
      rw [toJson, ofJson?, Json.alternative?_object]
      · simp
      · decide
      · rfl

@[simp] theorem fits (room : Nat) (operand : Operand) : Json.Fits (room + 3) operand.toJson := by
  cases operand with
  | register reg => exact .object (List.forall_mem_singleton.2 (reg.fits _))
  | immediate value => exact .object (List.forall_mem_singleton.2 (.int64 _ value))
  | shifted reg amount =>
      refine .object (List.forall_mem_singleton.2 (.object ?_))
      rw [List.forall_mem_cons, List.forall_mem_singleton]
      exact ⟨reg.fits _, amount.fits room⟩

end Operand

namespace MemRef

@[simp] theorem ofJson?_toJson (loose : Bool) (mem : MemRef) :
    ofJson? loose mem.toJson = some mem := by
  have index := Json.nullable_ofOption mem.index (Reg.ofJson?_toJson loose)
    fun reg => by rintro ⟨⟩
  rw [toJson, ofJson?, Json.record?_object]
  · simp [index]
  · decide
  · rfl

@[simp] theorem fits (room : Nat) (mem : MemRef) : Json.Fits (room + 1) mem.toJson := by
  refine .object ?_
  simp only [List.forall_mem_cons]
  exact ⟨mem.base.fits room, .ofOption mem.index (Reg.fits room), .uint8 room mem.shift,
    .boolean room _, .int32 room mem.displacement, .string room _, List.forall_mem_nil _⟩

end MemRef

namespace BlockTransfer

theorem ofRecord?_fields (block : BlockTransfer) :
    ofRecord? ⟨block.fields⟩ = some block := by
  simp [ofRecord?, fields]

end BlockTransfer

namespace Operation

/-- An operation has the fields of its family. -/
theorem names_fields (operation : Operation) :
    operation.fields.map Prod.fst = operation.family.fieldNames := by
  cases operation <;> rfl

/-- An operation of any family comes back from its fields. -/
theorem ofRecord?_fields (operation : Operation) :
    ofRecord? operation.family ⟨operation.fields⟩ = some operation := by
  cases operation with
  | store width source mem status | storeDual first second mem status =>
      have found := Json.nullable_ofOption status (Reg.ofJson?_toJson true) fun reg => by rintro ⟨⟩
      simp [ofRecord?, family, fields, found]
  | loadMultiple block | storeMultiple block =>
      simp [ofRecord?, family, fields, block.ofRecord?_fields]
  | inert => rfl
  | _ => simp [ofRecord?, family, fields]

/-- The fields of an operation nest no deeper than a shifted operand. -/
theorem fits_fields (room : Nat) (operation : Operation) :
    ∀ field ∈ operation.fields, Json.Fits (room + 3) field.2 := by
  have named (text : String) : Json.Fits (room + 3) (.string text) := .string _ text
  have truth (value : Bool) : Json.Fits (room + 3) (.boolean value) := .boolean _ value
  have status (reg? : Option Reg) : Json.Fits (room + 3) (Json.ofOption Reg.toJson reg?) :=
    .ofOption reg? (Reg.fits _)
  cases operation <;> simp [fields, BlockTransfer.fields, named, truth, status]

end Operation

namespace Instruction

/-- The names of the fields that every instruction has. -/
def fieldNames : List String := ["pc", "opcode", "predicate", "family"]

/-- The fields of an instruction without those of its operation. -/
def commonFields (instr : Instruction) : List (String × Json) := [
  ("pc", .integer instr.pc.toNat),
  ("opcode", .string instr.opcode.mnemonic),
  ("predicate", Json.ofOption (fun cond => .string (Cond.name cond)) instr.predicate),
  ("family", .string instr.operation.family.name)]

theorem names_commonFields (instr : Instruction) :
    instr.commonFields.map Prod.fst = fieldNames := rfl

/-- No field of an operation has the name of a field that every instruction has. -/
theorem notMem_fieldNames (family : Family) :
    ∀ name ∈ family.fieldNames, name ∉ fieldNames := by
  cases family <;> decide

theorem nodup_fieldNames (family : Family) : family.fieldNames.Nodup := by
  cases family <;> decide

/-- The fields that every instruction has are found among those of the operation. -/
theorem ofMembers?_common (instr : Instruction) :
    Record.ofMembers? fieldNames (instr.commonFields ++ instr.operation.fields) =
      some ⟨instr.commonFields⟩ := by
  refine Record.ofMembers?_before (by decide) instr.names_commonFields fun field mem => ?_
  have theirs := List.mem_map_of_mem (f := Prod.fst) mem
  rw [Operation.names_fields] at theirs
  exact notMem_fieldNames _ _ theirs

/-- The fields of the operation are found among those that every instruction has. -/
theorem ofMembers?_operation (instr : Instruction) :
    Record.ofMembers? instr.operation.family.fieldNames
        (instr.commonFields ++ instr.operation.fields) =
      some ⟨instr.operation.fields⟩ := by
  refine Record.ofMembers?_behind (nodup_fieldNames _) instr.operation.names_fields
    fun field mem theirs => notMem_fieldNames _ _ theirs ?_
  rw [← instr.names_commonFields]
  exact List.mem_map_of_mem mem

@[simp] theorem ofJson?_toJson (loose : Bool) (instr : Instruction) :
    ofJson? loose instr.toJson = some instr := by
  have found := Json.nullable_ofOption instr.predicate
    (fun cond => (Json.named?_string loose Cond.ofName? cond.name).trans cond.ofName?_name)
    fun cond => by rintro ⟨⟩
  have pc : Record.optional ⟨instr.commonFields⟩ "pc" 0 Json.uint32? = some instr.pc := by
    simp [commonFields]
  have opcode : Record.required ⟨instr.commonFields⟩ "opcode"
      (Json.named? loose Opcode.ofMnemonic?) = some instr.opcode := by
    simp [commonFields]
  have predicate : Record.optional ⟨instr.commonFields⟩ "predicate" none
      (Json.nullable (Json.named? loose Cond.ofName?)) = some instr.predicate := by
    simp [commonFields, found]
  have family : Record.required ⟨instr.commonFields⟩ "family" Family.ofTag? =
      some instr.operation.family := by
    simp [commonFields, Family.ofTag?]
  refine Option.bind_eq_some_iff.2 ⟨_, instr.ofMembers?_common, ?_⟩
  refine Option.bind_eq_some_iff.2 ⟨_, pc, ?_⟩
  refine Option.bind_eq_some_iff.2 ⟨_, opcode, ?_⟩
  refine Option.bind_eq_some_iff.2 ⟨_, predicate, ?_⟩
  refine Option.bind_eq_some_iff.2 ⟨_, family, ?_⟩
  refine Option.bind_eq_some_iff.2 ⟨_, instr.ofMembers?_operation, ?_⟩
  exact Option.bind_eq_some_iff.2 ⟨_, instr.operation.ofRecord?_fields, rfl⟩

theorem fits (room : Nat) (instr : Instruction) : Json.Fits (room + 4) instr.toJson := by
  refine .object ?_
  simp only [List.cons_append, List.nil_append, List.forall_mem_cons]
  exact ⟨.uint32 _ instr.pc, .string _ _, .ofOption instr.predicate fun cond => .string _ cond.name,
    .string _ _, instr.operation.fits_fields room⟩

end Instruction
end ShadowTaint
