import ShadowTaint.Arch.Flags
import ShadowTaint.Arch.Reg

/-!
# Machine context

The values of the registers and flags right before an instruction executes, as
the tracer recorded them.
-/

namespace ShadowTaint

/-- Register values and flags before an instruction. -/
structure Context where
  values : Vector UInt32 16
  flags : Flags
  deriving DecidableEq

namespace Context

/-- Every register and every flag is zero. -/
def zero : Context := ⟨Vector.replicate 16 0, Flags.clear⟩

instance : Inhabited Context := ⟨zero⟩

/-- The value of a register. -/
def value (context : Context) (reg : Reg) : UInt32 := context.values[reg.number]

/-- Change the value of one register. -/
def setValue (context : Context) (reg : Reg) (value : UInt32) : Context :=
  { context with values := context.values.set reg.number value }

@[simp] theorem value_zero (reg : Reg) : zero.value reg = 0 := by
  simp [value, zero]

@[simp] theorem value_setValue (context : Context) (changed reg : Reg) (value : UInt32) :
    (context.setValue changed value).value reg =
      if reg = changed then value else context.value reg := by
  cases changed
  cases reg
  simp [setValue, Context.value, Vector.getElem_set, Fin.ext_iff, eq_comm]

end Context
end ShadowTaint
