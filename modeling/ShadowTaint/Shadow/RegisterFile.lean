import ShadowTaint.Shadow.Lanes

/-!
# Shadow registers

The taint of the sixteen registers of one thread. Reading a register that was
just written gives what was written, and no other register changes.
-/

namespace ShadowTaint

/-- The taint of every register of one thread. -/
@[ext] structure RegisterFile where
  lanes : Vector Lanes 16
  deriving DecidableEq

namespace RegisterFile

/-- No register is tainted. -/
def clean : RegisterFile := ⟨Vector.replicate 16 Lanes.clean⟩

instance : Inhabited RegisterFile := ⟨clean⟩

/-- The taint of a register. -/
def get (registers : RegisterFile) (reg : Reg) : Lanes :=
  getElem registers.lanes reg.index reg.index_lt

/-- Give a register a taint. -/
def set (registers : RegisterFile) (reg : Reg) (taint : Lanes) : RegisterFile :=
  ⟨registers.lanes.set reg.index taint reg.index_lt⟩

/-- The union of the taint of several registers. -/
def union (registers : RegisterFile) (regs : List Reg) : Lanes :=
  regs.foldl (fun taint reg => taint.union (registers.get reg)) Lanes.clean

/-- The taint that flows from a source operand. -/
def operand (registers : RegisterFile) (operand : Operand) : Lanes :=
  registers.union operand.regs

/-- Some register is tainted. -/
def anyTainted (registers : RegisterFile) : Bool :=
  registers.lanes.any Lanes.isTainted

/-- The taint of every register in ascending order. -/
def toList (registers : RegisterFile) : List Lanes := registers.lanes.toList

@[simp] theorem get_clean (reg : Reg) : clean.get reg = Lanes.clean := by
  simp [get, clean]

@[simp] theorem get_set (registers : RegisterFile) (written read : Reg) (taint : Lanes) :
    (registers.set written taint).get read =
      if read = written then taint else registers.get read := by
  cases written
  cases read
  simp [get, set, Reg.index, Vector.getElem_set, Fin.ext_iff, eq_comm]

/-- Register files with the same taint in every register are equal. -/
theorem ext_get {first second : RegisterFile}
    (agree : ∀ reg, first.get reg = second.get reg) : first = second := by
  apply RegisterFile.ext
  apply Vector.ext
  intro position inRange
  exact agree ⟨⟨position, inRange⟩⟩

/-- Giving a register the taint that it has changes nothing. -/
theorem set_get (registers : RegisterFile) (reg : Reg) :
    registers.set reg (registers.get reg) = registers := by
  apply ext_get
  intro read
  rw [get_set]
  split
  · rename_i same
    rw [same]
  · rfl

theorem foldl_union_eq (registers : RegisterFile) (regs : List Reg) (start : Lanes) :
    regs.foldl (fun taint reg => taint.union (registers.get reg)) start =
      start.union (registers.union regs) := by
  induction regs generalizing start with
  | nil => simp [union]
  | cons reg rest inductionHypothesis =>
      simp only [union, List.foldl_cons, Lanes.clean_union]
      rw [inductionHypothesis, inductionHypothesis (registers.get reg), Lanes.union_assoc]

@[simp] theorem union_nil (registers : RegisterFile) : registers.union [] = Lanes.clean :=
  rfl

@[simp] theorem union_cons (registers : RegisterFile) (reg : Reg) (rest : List Reg) :
    registers.union (reg :: rest) = (registers.get reg).union (registers.union rest) := by
  show List.foldl _ _ rest = _
  simp only [foldl_union_eq, Lanes.clean_union]

@[simp] theorem union_append (registers : RegisterFile) (left right : List Reg) :
    registers.union (left ++ right) = (registers.union left).union (registers.union right) := by
  induction left with
  | nil => simp
  | cons reg rest inductionHypothesis => simp [inductionHypothesis, Lanes.union_assoc]

end RegisterFile
end ShadowTaint
