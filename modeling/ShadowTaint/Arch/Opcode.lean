/-!
# Opcodes

The opcodes a decoder reports. A flag-setting form of an instruction is an
opcode of its own, and one opcode stands for everything the decoder could not
name. What an opcode says about taint is little: whether it may change the
condition flags, whether it is a vector instruction, and two idioms.
-/

namespace ShadowTaint

/-- An opcode, in the order in which reports list opcodes. -/
inductive Opcode
  -- loads
  | ldr | ldrb | ldrh | ldrsb | ldrsh | ldrex | ldrexb | ldrexh | ldrt | ldrbt | ldrht
  | ldrsbt | ldrsht | ldrd | ldrexd
  -- stores
  | str | strb | strh | strex | strexb | strexh | strt | strbt | strht | strd | strexd
  -- block transfers
  | ldmia | ldmib | ldmda | ldmdb | stmia | stmib | stmda | stmdb
  -- moves
  | mov | movs | mvn | mvns | movw | movt | rrx | rrxs | mrs
  -- one source: extraction, extension, reversal
  | sbfx | ubfx | uxtb | uxth | sxtb | sxth | rev | rev16 | clz
  -- two sources: arithmetic and logic
  | adc | adcs | add | adds | addw | rsb | rsbs | rsc | rscs | sbc | sbcs | sub | subs
  | subw | and | ands | bic | bics | eor | eors | orr | orrs | orn | orns | lsl | lsls
  | lsr | lsrs | asr | asrs | ror | rors | mul | muls | uadd8 | uqsub8 | pkhbt | pkhtb
  | sel
  -- multiplication with accumulation
  | mla | mlas | mls | smmla | smmls
  -- long multiplication
  | umull | umulls | smull | smulls
  -- long multiplication with accumulation
  | umlal | umlals | smlal | smlals
  -- branches
  | b | bShort | bl | blx | blxInd | bx | bxj
  -- comparisons
  | cmp | cmn | tst | teq
  -- status register, hints, barriers, calls
  | msr | nop | yield | wfe | wfi | sev | dmb | dsb | isb | clrex | pld | svc | bkpt
  -- vector and floating point
  | vldr | vstr | vld1 | vst1 | vpush | vpop | vmov | vmrs | vmsr | vadd | vsub | vmul
  | vmla | vdup | vcvt | vcmp
  -- not decoded
  | unknown
  deriving DecidableEq, Inhabited

namespace Opcode

/-- Every opcode, in declaration order. -/
def all : List Opcode := [
  ldr, ldrb, ldrh, ldrsb, ldrsh, ldrex, ldrexb, ldrexh, ldrt, ldrbt, ldrht, ldrsbt,
  ldrsht, ldrd, ldrexd, str, strb, strh, strex, strexb, strexh, strt, strbt, strht, strd,
  strexd, ldmia, ldmib, ldmda, ldmdb, stmia, stmib, stmda, stmdb, mov, movs, mvn, mvns,
  movw, movt, rrx, rrxs, mrs, sbfx, ubfx, uxtb, uxth, sxtb, sxth, rev, rev16, clz, adc,
  adcs, add, adds, addw, rsb, rsbs, rsc, rscs, sbc, sbcs, sub, subs, subw, and, ands,
  bic, bics, eor, eors, orr, orrs, orn, orns, lsl, lsls, lsr, lsrs, asr, asrs, ror, rors,
  mul, muls, uadd8, uqsub8, pkhbt, pkhtb, sel, mla, mlas, mls, smmla, smmls, umull,
  umulls, smull, smulls, umlal, umlals, smlal, smlals, b, bShort, bl, blx, blxInd, bx,
  bxj, cmp, cmn, tst, teq, msr, nop, yield, wfe, wfi, sev, dmb, dsb, isb, clrex, pld,
  svc, bkpt, vldr, vstr, vld1, vst1, vpush, vpop, vmov, vmrs, vmsr, vadd, vsub, vmul,
  vmla, vdup, vcvt, vcmp, unknown]

/-- The number of opcodes. -/
def count : Nat := 145

/-- The position of an opcode in declaration order. -/
def index (opcode : Opcode) : Fin count :=
  ⟨opcode.ctorIdx, by cases opcode <;> decide⟩

theorem index_injective {first second : Opcode} (same : first.index = second.index) :
    first = second := by
  have position : first.ctorIdx = second.ctorIdx := congrArg Fin.val same
  rw [← ofNat_ctorIdx first, position, ofNat_ctorIdx]

theorem map_index_all : all.map index = List.finRange count := by decide +kernel

theorem mem_all (opcode : Opcode) : opcode ∈ all := by
  have member : opcode.index ∈ all.map index := by
    rw [map_index_all]
    exact List.mem_finRange _
  obtain ⟨other, listed, same⟩ := List.mem_map.1 member
  rwa [← index_injective same]

/-- The name of an opcode in assembly text. -/
def mnemonic : Opcode -> String
  | ldr => "ldr"
  | ldrb => "ldrb"
  | ldrh => "ldrh"
  | ldrsb => "ldrsb"
  | ldrsh => "ldrsh"
  | ldrex => "ldrex"
  | ldrexb => "ldrexb"
  | ldrexh => "ldrexh"
  | ldrt => "ldrt"
  | ldrbt => "ldrbt"
  | ldrht => "ldrht"
  | ldrsbt => "ldrsbt"
  | ldrsht => "ldrsht"
  | ldrd => "ldrd"
  | ldrexd => "ldrexd"
  | str => "str"
  | strb => "strb"
  | strh => "strh"
  | strex => "strex"
  | strexb => "strexb"
  | strexh => "strexh"
  | strt => "strt"
  | strbt => "strbt"
  | strht => "strht"
  | strd => "strd"
  | strexd => "strexd"
  | ldmia => "ldmia"
  | ldmib => "ldmib"
  | ldmda => "ldmda"
  | ldmdb => "ldmdb"
  | stmia => "stmia"
  | stmib => "stmib"
  | stmda => "stmda"
  | stmdb => "stmdb"
  | mov => "mov"
  | movs => "movs"
  | mvn => "mvn"
  | mvns => "mvns"
  | movw => "movw"
  | movt => "movt"
  | rrx => "rrx"
  | rrxs => "rrxs"
  | mrs => "mrs"
  | sbfx => "sbfx"
  | ubfx => "ubfx"
  | uxtb => "uxtb"
  | uxth => "uxth"
  | sxtb => "sxtb"
  | sxth => "sxth"
  | rev => "rev"
  | rev16 => "rev16"
  | clz => "clz"
  | adc => "adc"
  | adcs => "adcs"
  | add => "add"
  | adds => "adds"
  | addw => "addw"
  | rsb => "rsb"
  | rsbs => "rsbs"
  | rsc => "rsc"
  | rscs => "rscs"
  | sbc => "sbc"
  | sbcs => "sbcs"
  | sub => "sub"
  | subs => "subs"
  | subw => "subw"
  | and => "and"
  | ands => "ands"
  | bic => "bic"
  | bics => "bics"
  | eor => "eor"
  | eors => "eors"
  | orr => "orr"
  | orrs => "orrs"
  | orn => "orn"
  | orns => "orns"
  | lsl => "lsl"
  | lsls => "lsls"
  | lsr => "lsr"
  | lsrs => "lsrs"
  | asr => "asr"
  | asrs => "asrs"
  | ror => "ror"
  | rors => "rors"
  | mul => "mul"
  | muls => "muls"
  | uadd8 => "uadd8"
  | uqsub8 => "uqsub8"
  | pkhbt => "pkhbt"
  | pkhtb => "pkhtb"
  | sel => "sel"
  | mla => "mla"
  | mlas => "mlas"
  | mls => "mls"
  | smmla => "smmla"
  | smmls => "smmls"
  | umull => "umull"
  | umulls => "umulls"
  | smull => "smull"
  | smulls => "smulls"
  | umlal => "umlal"
  | umlals => "umlals"
  | smlal => "smlal"
  | smlals => "smlals"
  | b => "b"
  | bShort => "b_short"
  | bl => "bl"
  | blx => "blx"
  | blxInd => "blx_ind"
  | bx => "bx"
  | bxj => "bxj"
  | cmp => "cmp"
  | cmn => "cmn"
  | tst => "tst"
  | teq => "teq"
  | msr => "msr"
  | nop => "nop"
  | yield => "yield"
  | wfe => "wfe"
  | wfi => "wfi"
  | sev => "sev"
  | dmb => "dmb"
  | dsb => "dsb"
  | isb => "isb"
  | clrex => "clrex"
  | pld => "pld"
  | svc => "svc"
  | bkpt => "bkpt"
  | vldr => "vldr"
  | vstr => "vstr"
  | vld1 => "vld1"
  | vst1 => "vst1"
  | vpush => "vpush"
  | vpop => "vpop"
  | vmov => "vmov"
  | vmrs => "vmrs"
  | vmsr => "vmsr"
  | vadd => "vadd"
  | vsub => "vsub"
  | vmul => "vmul"
  | vmla => "vmla"
  | vdup => "vdup"
  | vcvt => "vcvt"
  | vcmp => "vcmp"
  | unknown => "unknown"

/-- The opcode with exactly the given mnemonic. -/
def ofMnemonic? (text : String) : Option Opcode :=
  all.find? fun opcode => opcode.mnemonic == text

@[simp] theorem ofMnemonic?_mnemonic (opcode : Opcode) :
    ofMnemonic? opcode.mnemonic = some opcode := by
  have each : ∀ opcode ∈ all, ofMnemonic? opcode.mnemonic = some opcode := by decide +kernel
  exact each opcode (mem_all opcode)

/-- The opcode a mnemonic names when the case of its letters is ignored. -/
def ofAssembly? (text : String) : Option Opcode :=
  ofMnemonic? (text.map Char.toLower)

/-- The flags may differ after an opcode: comparisons, the write of the status
register, and the flag-setting forms. -/
def affectsFlags : Opcode -> Bool
  | cmp | cmn | tst | teq | adcs | adds | ands | asrs | bics | eors | lsls | lsrs | mlas
  | movs | muls | mvns | orns | orrs | rors | rrxs | rsbs | rscs | msr | sbcs | subs
  | smlals | smulls | umlals | umulls => true
  | _ => false

/-- Vector and floating-point opcodes, for which there is no taint rule. -/
def isSimd : Opcode -> Bool
  | vldr | vstr | vld1 | vst1 | vpush | vpop | vmov | vmrs | vmsr | vadd | vsub | vmul
  | vmla | vdup | vcvt | vcmp => true
  | _ => false

/-- Opcodes whose result is zero when both register sources are the same. -/
def zeroesEqualSources : Opcode -> Bool
  | eor | eors | sub | subs | sbc | sbcs => true
  | _ => false

/-- Subtractions, which allocate a stack frame when they lower the stack pointer
by a constant. -/
def isSubtract : Opcode -> Bool
  | sub | subs | subw => true
  | _ => false

/-- No vector opcode allocates a stack frame. -/
theorem isSubtract_of_isSimd {opcode : Opcode} (simd : opcode.isSimd = true) :
    opcode.isSubtract = false := by
  cases opcode <;> first | rfl | cases simd

end Opcode
end ShadowTaint
