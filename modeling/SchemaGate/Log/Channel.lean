/-!
The channels that progress is told on, and what a listener may ask for: one channel or all of them.
-/

set_option autoImplicit false

namespace SchemaGate.Log

inductive Channel where
  /-- What the gate decides. -/
  | debug
  /-- What is queued and what a server answers. -/
  | trace
  deriving DecidableEq, Repr

namespace Channel

def all : List Channel := [debug, trace]

def name : Channel → String
  | debug => "debug"
  | trace => "trace"

end Channel

inductive Target where
  | only (channel : Channel)
  | every
  deriving DecidableEq, Repr

namespace Target

def channels : Target → List Channel
  | only c => [c]
  | every => Channel.all

def name : Target → String
  | only c => c.name
  | every => "all"

/-- Reads the word for a target in any mixture of cases. No letter outside ASCII has a lower case
form that stands in one of the words, so ASCII cases are all that matter. -/
def ofName? (word : String) : Option Target :=
  let lower := String.ofList (word.toList.map Char.toLower)
  if lower = "debug" then some (.only .debug)
  else if lower = "trace" then some (.only .trace)
  else if lower = "all" then some .every
  else none

def unknownMessage (word : String) : String := "invalid log channel: " ++ word

end Target

end SchemaGate.Log
