import SchemaGate.Log.Channel
/-!
What a run leaves behind for readers: diagnostic events, messages on the log channels, and text
printed for the person at the terminal. A note says what was told; an observation says what came of
it, once it is known who listens.
-/

set_option autoImplicit false

namespace SchemaGate

inductive Level where
  | error
  | warn
  | info
  | debug
  | trace
  deriving DecidableEq, Repr

namespace Level

def name : Level → String
  | error => "ERROR"
  | warn => "WARN"
  | info => "INFO"
  | debug => "DEBUG"
  | trace => "TRACE"

end Level

structure Event where
  level : Level
  message : String
  fields : List (String × String)
  deriving DecidableEq, Repr

/-- Something told during a run. -/
inductive Note where
  | event (e : Event)
  | message (channel : Log.Channel) (text : String)
  | printed (text : String)
  deriving DecidableEq, Repr

/-- Something seen from outside. -/
inductive Observation where
  | event (e : Event)
  /-- A message that reached the listener with that label. -/
  | delivered (label text : String)
  | printed (text : String)
  deriving DecidableEq, Repr

namespace Observation

def event? : Observation → Option Event
  | event e => some e
  | _ => none

def delivery? : Observation → Option (String × String)
  | delivered label text => some (label, text)
  | _ => none

end Observation

end SchemaGate
