/-!
The decision of the gate. A database that does not exist is older than every version; one that
stores a version is skipped by every script whose target is at or above it.
-/

set_option autoImplicit false

namespace SchemaGate.Gate

/-- Whether a script is sent. -/
inductive Decision where
  | run
  | skip
  deriving DecidableEq, Repr

def Decision.ofVersions (target : Int) : Option Int → Decision
  | some current => if current ≤ target then .skip else .run
  | none => .run

end SchemaGate.Gate
