/-!
# General purpose registers

The sixteen registers of the machine. Three of them have a role and a second
name: the stack pointer, the link register and the program counter. Text meant
for people uses the role names; data files number all registers alike.
-/

namespace ShadowTaint

/-- A general purpose register. -/
structure Reg where
  number : Fin 16
  deriving DecidableEq, Inhabited

namespace Reg

/-- The first register, which carries results of calls. -/
def r0 : Reg := ⟨0⟩

/-- The stack pointer. -/
def sp : Reg := ⟨13⟩

/-- The link register. -/
def lr : Reg := ⟨14⟩

/-- The program counter. -/
def pc : Reg := ⟨15⟩

/-- The position of a register in the register file. -/
def index (reg : Reg) : Nat := reg.number

/-- The register at a position, if there is one. -/
def ofIndex? (index : Nat) : Option Reg :=
  if inRange : index < 16 then some ⟨⟨index, inRange⟩⟩ else none

/-- Every register, in ascending order. -/
def all : List Reg := (List.finRange 16).map Reg.mk

/-- The numbered name of a register. -/
def name (reg : Reg) : String := "r" ++ toString reg.index

/-- The name of a register as people write it. -/
def display (reg : Reg) : String :=
  if reg = sp then "sp" else if reg = lr then "lr" else if reg = pc then "pc" else reg.name

/-- The register with a given name; the role names count. -/
def ofName? (text : String) : Option Reg :=
  match text with
  | "sp" => some sp
  | "lr" => some lr
  | "pc" => some pc
  | _ => all.find? fun reg => reg.name == text

theorem index_lt (reg : Reg) : reg.index < 16 := reg.number.isLt

@[simp] theorem ofIndex?_index (reg : Reg) : ofIndex? reg.index = some reg := by
  simp [ofIndex?, index]

theorem ofIndex?_eq_none_iff {index : Nat} : ofIndex? index = none ↔ 16 ≤ index := by
  simp [ofIndex?]

@[simp] theorem mem_all (reg : Reg) : reg ∈ all :=
  List.mem_map.2 ⟨reg.number, List.mem_finRange _, rfl⟩

/-- A register is found by its number, for no role name is a numbered one. -/
@[simp] theorem ofName?_name (reg : Reg) : ofName? reg.name = some reg := by
  have each : ∀ reg ∈ all, ofName? reg.name = some reg := by decide +kernel
  exact each reg (mem_all reg)

end Reg
end ShadowTaint
