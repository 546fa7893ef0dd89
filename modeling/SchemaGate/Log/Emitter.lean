import SchemaGate.Journal
import SchemaGate.Text.Decimal
/-!
Listeners and what reaches them. A message goes to the listeners of its channel in the order they
subscribed; one that breaks down over it is reported and does not keep the message from the others.
-/

set_option autoImplicit false

namespace SchemaGate.Log

/-- A listener: its label, and the messages it breaks down over after it has received them. -/
structure Sink where
  label : String
  breaks : String → Bool

/-- The listeners of each channel, in order of subscription. -/
structure Emitter where
  debug : List Sink
  trace : List Sink

namespace Emitter

def empty : Emitter := ⟨[], []⟩

def sinks (e : Emitter) : Channel → List Sink
  | .debug => e.debug
  | .trace => e.trace

def add (e : Emitter) (c : Channel) (s : Sink) : Emitter :=
  match c with
  | .debug => { e with debug := e.debug ++ [s] }
  | .trace => { e with trace := e.trace ++ [s] }

/-- The emitter with one more listener on every channel of the target. -/
def subscribe (e : Emitter) (t : Target) (s : Sink) : Emitter :=
  t.channels.foldl (fun e c => e.add c s) e

def broken (c : Channel) : Event := ⟨.warn, "log callback panicked", [("channel", c.name)]⟩

def deliver (c : Channel) (text : String) (s : Sink) : List Observation :=
  .delivered s.label text :: if s.breaks text then [.event (broken c)] else []

def emit (e : Emitter) (c : Channel) (text : String) : List Observation :=
  (e.sinks c).flatMap (deliver c text)

def observe (e : Emitter) : Note → List Observation
  | .event ev => [.event ev]
  | .message c text => e.emit c text
  | .printed text => [.printed text]

def listenerCount (e : Emitter) (c : Channel) : Nat := (e.sinks c).length

def render (e : Emitter) : String :=
  "LogEmitter \x7b debug: " ++ Text.ofNat e.debug.length ++ ", trace: " ++
    Text.ofNat e.trace.length ++ " \x7d"

end Emitter

/-- What a note comes to if there may be no emitter at all: messages are lost, events are not. -/
def observe (e : Option Emitter) (n : Note) : List Observation :=
  (e.getD Emitter.empty).observe n

end SchemaGate.Log
