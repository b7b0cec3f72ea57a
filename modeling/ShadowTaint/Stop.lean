import ShadowTaint.Failure
import ShadowTaint.Fault

/-!
# Stops

Work on data from outside ends early for one of two reasons: a contract is broken,
or something is wrong with the data. Only the latter can be made good.
-/

namespace ShadowTaint

/-- What ends some work early. -/
inductive Stop
  | fault (cause : Fault)
  | failure (cause : Failure)
  deriving DecidableEq

namespace Stop

/-- The text of what ended the work. -/
def message : Stop -> String
  | fault cause => cause.message
  | failure cause => cause.message

/-- Work that takes the place of work that failed. A fault stays a fault. -/
def orElse (first second : Except Stop Value) : Except Stop Value :=
  match first with
  | .error (.failure _) => second
  | _ => first

end Stop
end ShadowTaint
