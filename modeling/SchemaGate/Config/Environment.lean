import SchemaGate.Text.Utf8
/-!
Environments: variables with their bytes. A variable counts as set only if its bytes are text.
-/

set_option autoImplicit false

namespace SchemaGate.Config

structure Environment where
  entries : List (String × Text.Bytes)

namespace Environment

def empty : Environment := ⟨[]⟩

def get? (env : Environment) (name : String) : Option String :=
  (env.entries.find? fun v => v.1 == name).bind fun v => Text.ofUtf8? v.2

def set (env : Environment) (name value : String) : Environment :=
  ⟨(name, Text.utf8 value) :: env.entries.filter fun v => v.1 != name⟩

end Environment

end SchemaGate.Config
