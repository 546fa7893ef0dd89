import SchemaGate.Command.Arguments
/-!
What the program says about itself: its name and version, and the forms of its commands.
-/

set_option autoImplicit false

namespace SchemaGate.Command

def programName : String := "sqlgate"

def programVersion : String := "0.1.0"

def versionText : String := programName ++ " " ++ programVersion ++ "\n"

def Switch.usage (s : Switch) : String :=
  (match s.letter with
    | some c => "-" ++ String.singleton c ++ ", "
    | none => "") ++
  "--" ++ s.name ++ (if s.effect = .value then " <" ++ s.name ++ ">" else "")

def Form.usage (form : Form) : String :=
  "  " ++ form.name ++ "\n" ++
    String.join ((form.switches ++ [helpSwitch]).map fun s => "      " ++ s.usage ++ "\n")

def usageText : String :=
  "Usage: " ++ programName ++ " <command> [options]\n\n" ++ String.join (forms.map Form.usage)

end SchemaGate.Command
