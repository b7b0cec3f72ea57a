import ShadowTaint.Instr.Operation
import ShadowTaint.Json.Record

/-!
# Instructions in data files

An instruction is an object. Beside its address, opcode and predicate it holds
the name of its family and the fields of the family, in any order. Written
instructions have every field, defaults included, and register lists ascend.
-/

namespace ShadowTaint

namespace Reg

/-- A register as its numbered name. -/
def toJson (reg : Reg) : Json := .string reg.name

/-- The register with a given name. -/
def ofJson? (loose : Bool) : Json -> Option Reg := Json.named? loose ofName?

end Reg

namespace RegList

/-- A register list as its registers in ascending order. -/
def toJson (list : RegList) : Json := .array (list.toList.map Reg.toJson)

/-- The list of the given registers, which may come in any order. -/
def ofJson? (loose : Bool) (value : Json) : Option RegList :=
  (Json.listOf (Reg.ofJson? loose) value).map ofList

end RegList

namespace ShiftAmount

/-- A shift amount under the name of its kind. -/
def toJson : ShiftAmount -> Json
  | immediate amount => .object [("imm", .integer amount.toNat)]
  | register reg => .object [("reg", reg.toJson)]

/-- The shift amount that an object with one member denotes. -/
def ofJson? (loose : Bool) : Json -> Option ShiftAmount
  | .object [("imm", amount)] => amount.uint8?.map immediate
  | .object [("reg", reg)] => (Reg.ofJson? loose reg).map register
  | _ => none

end ShiftAmount

namespace Operand

/-- An operand under the name of its kind. -/
def toJson : Operand -> Json
  | register reg => .object [("reg", reg.toJson)]
  | immediate value => .object [("imm", .integer value.toInt)]
  | shifted reg amount =>
      .object [("shifted", .object [("reg", reg.toJson), ("amount", amount.toJson)])]

/-- The operand that an object with one member denotes. -/
def ofJson? (loose : Bool) : Json -> Option Operand
  | .object [("reg", reg)] => (Reg.ofJson? loose reg).map register
  | .object [("imm", value)] => value.int64?.map immediate
  | .object [("shifted", fields)] => do
      let record ← fields.alternative? loose ["reg", "amount"]
      let reg ← record.required "reg" (Reg.ofJson? loose)
      let amount ← record.required "amount" (ShiftAmount.ofJson? loose)
      return shifted reg amount
  | _ => none

end Operand

namespace MemRef

/-- A memory operand with all its fields. -/
def toJson (mem : MemRef) : Json :=
  .object [
    ("base", mem.base.toJson),
    ("index", Json.ofOption Reg.toJson mem.index),
    ("shift", .integer mem.shift.toNat),
    ("subtract", .boolean mem.subtract),
    ("disp", .integer mem.displacement.toInt),
    ("mode", .string mem.mode.name)]

/-- The memory operand of a record of which only the base is required. -/
def ofJson? (loose : Bool) (value : Json) : Option MemRef := do
  let record ← value.record? ["base", "index", "shift", "subtract", "disp", "mode"]
  let base ← record.required "base" (Reg.ofJson? loose)
  let index ← record.optional "index" none (Json.nullable (Reg.ofJson? loose))
  let shift ← record.optional "shift" 0 Json.uint8?
  let subtract ← record.optional "subtract" false Json.boolean?
  let displacement ← record.optional "disp" 0 Json.int32?
  let mode ← record.optional "mode" .offset (Json.named? loose AddressMode.ofName?)
  return ⟨base, index, shift, subtract, displacement, mode⟩

end MemRef

/-- The families of operations. -/
inductive Family
  | move | constant | extract | load | loadDual | store | storeDual | arithmetic
  | multiplyAccumulate | multiplyLong | multiplyAccumulateLong | branch
  | loadMultiple | storeMultiple | inert | unsupported
  deriving DecidableEq

namespace Family

/-- Every family, in the order of their numbers. -/
def all : List Family := [
  move, constant, extract, load, loadDual, store, storeDual, arithmetic,
  multiplyAccumulate, multiplyLong, multiplyAccumulateLong, branch,
  loadMultiple, storeMultiple, inert, unsupported]

/-- The name of a family. -/
def name : Family -> String
  | move => "move"
  | constant => "constant"
  | extract => "extract"
  | load => "load"
  | loadDual => "load_dual"
  | store => "store"
  | storeDual => "store_dual"
  | arithmetic => "arith"
  | multiplyAccumulate => "mul_acc"
  | multiplyLong => "mul_long"
  | multiplyAccumulateLong => "mul_acc_long"
  | branch => "branch"
  | loadMultiple => "load_multiple"
  | storeMultiple => "store_multiple"
  | inert => "inert"
  | unsupported => "unsupported"

/-- The family with a given name. -/
def ofName? (text : String) : Option Family := all.find? fun family => family.name == text

/-- The family that a tag denotes: a name, or a number that counts families from
zero. -/
def ofTag? : Json -> Option Family
  | .string text => ofName? text
  | .integer number => if 0 ≤ number then all[number.toNat]? else none
  | _ => none

/-- The names of the fields of a family, in order. -/
def fieldNames : Family -> List String
  | move => ["dst", "src"]
  | constant => ["dst"]
  | extract => ["dst", "src"]
  | load => ["width", "dst", "mem"]
  | loadDual => ["first", "second", "mem"]
  | store => ["width", "src", "mem", "status"]
  | storeDual => ["first", "second", "mem", "status"]
  | arithmetic => ["dst", "lhs", "rhs"]
  | multiplyAccumulate => ["dst", "lhs", "rhs", "acc"]
  | multiplyLong | multiplyAccumulateLong => ["lo", "hi", "lhs", "rhs"]
  | branch => ["link", "target"]
  | loadMultiple | storeMultiple => ["mode", "base", "regs", "writeback"]
  | inert => []
  | unsupported => ["kind"]

@[simp] theorem ofName?_name (family : Family) : ofName? family.name = some family := by
  cases family <;> decide

end Family

namespace BlockTransfer

/-- The fields of a block transfer. -/
def fields (block : BlockTransfer) : List (String × Json) := [
  ("mode", .string block.mode.name),
  ("base", block.base.toJson),
  ("regs", block.regs.toJson),
  ("writeback", .boolean block.writeback)]

/-- The block transfer of a record. -/
def ofRecord? (record : Json.Record) : Option BlockTransfer := do
  let mode ← record.required "mode" (Json.named? true BlockMode.ofName?)
  let base ← record.required "base" (Reg.ofJson? true)
  let regs ← record.required "regs" (RegList.ofJson? true)
  let writeback ← record.required "writeback" Json.boolean?
  return ⟨mode, base, regs, writeback⟩

end BlockTransfer

namespace Operation

/-- The family of an operation. -/
def family : Operation -> Family
  | move _ _ => .move
  | constant _ => .constant
  | extract _ _ => .extract
  | load _ _ _ => .load
  | loadDual _ _ _ => .loadDual
  | store _ _ _ _ => .store
  | storeDual _ _ _ _ => .storeDual
  | arithmetic _ _ _ => .arithmetic
  | multiplyAccumulate _ _ _ _ => .multiplyAccumulate
  | multiplyLong _ _ _ _ => .multiplyLong
  | multiplyAccumulateLong _ _ _ _ => .multiplyAccumulateLong
  | branch _ _ => .branch
  | loadMultiple _ => .loadMultiple
  | storeMultiple _ => .storeMultiple
  | inert => .inert
  | unsupported _ => .unsupported

/-- The fields of an operation, in the order of its family. -/
def fields : Operation -> List (String × Json)
  | move target source => [("dst", target.toJson), ("src", source.toJson)]
  | constant target => [("dst", target.toJson)]
  | extract target source => [("dst", target.toJson), ("src", source.toJson)]
  | load width target mem =>
      [("width", .string width.name), ("dst", target.toJson), ("mem", mem.toJson)]
  | loadDual first second mem =>
      [("first", first.toJson), ("second", second.toJson), ("mem", mem.toJson)]
  | store width source mem status =>
      [("width", .string width.name), ("src", source.toJson), ("mem", mem.toJson),
        ("status", Json.ofOption Reg.toJson status)]
  | storeDual first second mem status =>
      [("first", first.toJson), ("second", second.toJson), ("mem", mem.toJson),
        ("status", Json.ofOption Reg.toJson status)]
  | arithmetic target left right =>
      [("dst", target.toJson), ("lhs", left.toJson), ("rhs", right.toJson)]
  | multiplyAccumulate target left right accumulator =>
      [("dst", target.toJson), ("lhs", left.toJson), ("rhs", right.toJson),
        ("acc", accumulator.toJson)]
  | multiplyLong low high left right | multiplyAccumulateLong low high left right =>
      [("lo", low.toJson), ("hi", high.toJson), ("lhs", left.toJson), ("rhs", right.toJson)]
  | branch link target => [("link", .boolean link), ("target", target.toJson)]
  | loadMultiple block | storeMultiple block => block.fields
  | inert => []
  | unsupported kind => [("kind", .string kind.name)]

/-- The operation of a family that a record holds. -/
def ofRecord? (family : Family) (record : Json.Record) : Option Operation :=
  let reg (name : String) : Option Reg := record.required name (Reg.ofJson? true)
  let operand (name : String) : Option Operand := record.required name (Operand.ofJson? true)
  let mem : Option MemRef := record.required "mem" (MemRef.ofJson? true)
  let width : Option Width := record.required "width" (Json.named? true Width.ofName?)
  let status : Option (Option Reg) :=
    record.optional "status" none (Json.nullable (Reg.ofJson? true))
  match family with
  | .move => return move (← reg "dst") (← operand "src")
  | .constant => return constant (← reg "dst")
  | .extract => return extract (← reg "dst") (← reg "src")
  | .load => return load (← width) (← reg "dst") (← mem)
  | .loadDual => return loadDual (← reg "first") (← reg "second") (← mem)
  | .store => return store (← width) (← reg "src") (← mem) (← status)
  | .storeDual => return storeDual (← reg "first") (← reg "second") (← mem) (← status)
  | .arithmetic => return arithmetic (← reg "dst") (← operand "lhs") (← operand "rhs")
  | .multiplyAccumulate =>
      return multiplyAccumulate (← reg "dst") (← reg "lhs") (← reg "rhs") (← reg "acc")
  | .multiplyLong => return multiplyLong (← reg "lo") (← reg "hi") (← reg "lhs") (← reg "rhs")
  | .multiplyAccumulateLong =>
      return multiplyAccumulateLong (← reg "lo") (← reg "hi") (← reg "lhs") (← reg "rhs")
  | .branch => return branch (← record.required "link" Json.boolean?) (← operand "target")
  | .loadMultiple => return loadMultiple (← BlockTransfer.ofRecord? record)
  | .storeMultiple => return storeMultiple (← BlockTransfer.ofRecord? record)
  | .inert => some inert
  | .unsupported =>
      return unsupported (← record.required "kind" (Json.named? true UnsupportedKind.ofName?))

end Operation

namespace Instruction

/-- An instruction with all its fields. -/
def toJson (instr : Instruction) : Json :=
  .object ([
    ("pc", .integer instr.pc.toNat),
    ("opcode", .string instr.opcode.mnemonic),
    ("predicate", Json.ofOption (fun cond => .string (Cond.name cond)) instr.predicate),
    ("family", .string instr.operation.family.name)] ++ instr.operation.fields)

/-- The instruction that an object denotes. -/
def ofJson? (loose : Bool) (value : Json) : Option Instruction := do
  let members ← value.members?
  let record ← Json.Record.ofMembers? ["pc", "opcode", "predicate", "family"] members
  let pc ← record.optional "pc" 0 Json.uint32?
  let opcode ← record.required "opcode" (Json.named? loose Opcode.ofMnemonic?)
  let predicate ←
    record.optional "predicate" none (Json.nullable (Json.named? loose Cond.ofName?))
  let family ← record.required "family" Family.ofTag?
  let fields ← Json.Record.ofMembers? family.fieldNames members
  let operation ← Operation.ofRecord? family fields
  return ⟨pc, opcode, predicate, operation⟩

end Instruction
end ShadowTaint
