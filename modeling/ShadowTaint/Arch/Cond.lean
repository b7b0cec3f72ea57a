import ShadowTaint.Arch.Flags

/-!
# Condition codes

An instruction may be predicated on one of fifteen condition codes. Codes are
numbered as in the instruction encoding, where flipping the lowest bit of a
code negates it.
-/

namespace ShadowTaint

/-- A condition code. -/
inductive Cond
  | eq | ne | cs | cc | mi | pl | vs | vc
  | hi | ls | ge | lt | gt | le | al
  deriving DecidableEq, Inhabited

namespace Cond

/-- Every condition code, in the order of the encoding. -/
def all : List Cond :=
  [eq, ne, cs, cc, mi, pl, vs, vc, hi, ls, ge, lt, gt, le, al]

/-- The condition with a given encoding; the last of the sixteen encodings is
no condition. -/
def ofCode? (code : Nat) : Option Cond := all[code]?

/-- The name of a condition. -/
def name : Cond -> String
  | eq => "eq"
  | ne => "ne"
  | cs => "cs"
  | cc => "cc"
  | mi => "mi"
  | pl => "pl"
  | vs => "vs"
  | vc => "vc"
  | hi => "hi"
  | ls => "ls"
  | ge => "ge"
  | lt => "lt"
  | gt => "gt"
  | le => "le"
  | al => "al"

/-- The condition with a given name. Two conditions have a second name, from
their use after an unsigned comparison. -/
def ofName? (text : String) : Option Cond :=
  if text = "hs" then some cs
  else if text = "lo" then some cc
  else all.find? fun cond => cond.name == text

/-- Whether a condition holds under given flags. -/
def holds (flags : Flags) : Cond -> Bool
  | eq => flags.isZero
  | ne => !flags.isZero
  | cs => flags.isCarry
  | cc => !flags.isCarry
  | mi => flags.isNegative
  | pl => !flags.isNegative
  | vs => flags.isOverflow
  | vc => !flags.isOverflow
  | hi => flags.isCarry && !flags.isZero
  | ls => !flags.isCarry || flags.isZero
  | ge => flags.isNegative == flags.isOverflow
  | lt => flags.isNegative != flags.isOverflow
  | gt => !flags.isZero && flags.isNegative == flags.isOverflow
  | le => flags.isZero || flags.isNegative != flags.isOverflow
  | al => true

/-- The negated condition; `al` has none. -/
def inverse? : Cond -> Option Cond
  | eq => some ne
  | ne => some eq
  | cs => some cc
  | cc => some cs
  | mi => some pl
  | pl => some mi
  | vs => some vc
  | vc => some vs
  | hi => some ls
  | ls => some hi
  | ge => some lt
  | lt => some ge
  | gt => some le
  | le => some gt
  | al => none

@[simp] theorem ofName?_name (cond : Cond) : ofName? cond.name = some cond := by
  cases cond <;> decide

/-- The inverse of a condition holds exactly when the condition does not. -/
theorem holds_of_inverse? {cond other : Cond} (flags : Flags)
    (inverse : cond.inverse? = some other) :
    other.holds flags = !cond.holds flags := by
  cases cond <;> cases inverse <;> simp only [holds] <;>
    generalize flags.isNegative = n <;> generalize flags.isZero = z <;>
    generalize flags.isCarry = c <;> generalize flags.isOverflow = v <;>
    revert n z c v <;> decide

end Cond
end ShadowTaint
