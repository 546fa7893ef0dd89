/-!
Commands: what the program can be asked to do.
-/

set_option autoImplicit false

namespace SchemaGate

inductive Command where
  /-- Print the statements of a plan. -/
  | render (plan : String)
  /-- Run a plan against the server of a configuration. -/
  | apply (plan config : String) (increase verbose : Bool)
  /-- Tell whether a database exists and at which version it is. -/
  | status (database config : String)
  deriving DecidableEq, Repr

inductive Request where
  | run (command : Command)
  | version
  | help
  deriving DecidableEq, Repr

end SchemaGate
