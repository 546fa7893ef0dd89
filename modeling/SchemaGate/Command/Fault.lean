import SchemaGate.Failure
import SchemaGate.Text.Decimal
/-!
What makes a command fail, and how the program tells of it: the fault, and under it the faults that
it was made of.
-/

set_option autoImplicit false

namespace SchemaGate

/-- The faults that a failure was made of, the outermost first. -/
def Failure.causes : Failure → List String
  | .sql fault => fault.message :: fault.inner?.toList
  | .io text => [text]
  | _ => []

namespace Command

inductive Fault where
  /-- No configuration lies at the path. -/
  | noConfiguration (path : String)
  | failure (e : Failure)
  deriving DecidableEq, Repr

namespace Fault

def message : Fault → String
  | noConfiguration path =>
    "Configuration file not found: " ++ path ++ "\nCreate one with a [database] url entry."
  | failure e => e.message

def causes : Fault → List String
  | noConfiguration _ => []
  | failure e => e.causes

/-- A text with blanks put in front of each of its lines but the first. -/
def indented (blanks : Nat) (text : String) : String :=
  let gap := List.replicate blanks ' '
  String.ofList (text.toList.flatMap fun c => if c = '\n' then c :: gap else [c])

def indent : Nat := 4

/-- A text that stands at the right end of a field. -/
def padLeft (width : Nat) (text : String) : String :=
  String.ofList (List.replicate (width - text.length) ' ') ++ text

def numbered (index : Nat) (cause : String) : String :=
  "\n" ++ padLeft (indent + 1) (Text.ofNat index) ++ ": " ++ indented (indent + 3) cause

/-- The causes for people; only several of them are numbered. -/
def reportCauses : List String → String
  | [] => ""
  | [cause] =>
    "\n\nCaused by:\n" ++ padLeft indent "" ++ indented indent cause
  | causes => "\n\nCaused by:" ++ String.join (causes.mapIdx numbered)

def report (f : Fault) : String := "Error: " ++ f.message ++ reportCauses f.causes

end Fault

end Command

end SchemaGate
