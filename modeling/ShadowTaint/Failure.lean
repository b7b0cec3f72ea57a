/-!
# Failures

What can go wrong outside the analysis itself, with the text that a user sees.
-/

namespace ShadowTaint

/-- A failure, with what there is to say about it. -/
inductive Failure
  | config (detail : String)
  | trace (detail : String)
  | inputOutput (detail : String)
  | unsupported (detail : String)
  | other (detail : String)
  deriving DecidableEq

namespace Failure

/-- The text of a failure. -/
def message : Failure -> String
  | config detail => "Err invalid config: " ++ detail
  | trace detail => "Err malformed trace: " ++ detail
  | inputOutput detail => "Err io failure: " ++ detail
  | unsupported detail => "Err unsupported: " ++ detail
  | other detail => "Err: " ++ detail

/-- No opcode has the mnemonic. -/
def unknownMnemonic (mnemonic : String) : Failure :=
  unsupported ("unknown mnemonic " ++ mnemonic)

/-- A line of a trace is no event. -/
def malformedLine (number : Nat) : Failure := trace ("line " ++ toString number)

/-- Bytes that should be text are none. -/
def invalidText : Failure := inputOutput "stream did not contain valid UTF-8"

end Failure
end ShadowTaint
