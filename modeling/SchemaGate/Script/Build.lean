import SchemaGate.Script.Run
/-!
Building a script by a chain of calls. Each call is made on the script that the calls before it
left, and the chain ends with the first that is refused. A script that is built can be run at once.
-/

set_option autoImplicit false

namespace SchemaGate.Script

inductive Call where
  | useDatabase (d : Schema.Database)
  | createTable (t : Schema.Table)
  | raw (sql : String)
  | attach (t : Log.Target) (sink : Log.Sink)

def make (s : Script) : Call → Except Failure (Told Script)
  | .useDatabase d => .ok (s.useDatabase d)
  | .createTable t => s.createTable t
  | .raw sql => .ok (s.raw sql)
  | .attach t sink => .ok (s.attach t sink)

def build (s : Script) : List Call → Exchange Script
  | [] => return s
  | c :: rest => do
    let made ← ExceptT.mk (.done (s.make c))
    tellAll made.notes
    build made.value rest

def migrate (s : Script) (calls : List Call) (increase : Bool) : Exchange Outcome := do
  let built ← s.build calls
  built.execute increase

end SchemaGate.Script
