import SchemaGate.Config.Connection
import SchemaGate.Config.Placeholder
import SchemaGate.Document.Reader
import SchemaGate.Toml.Document
/-!
Configurations: the connection and the logging. Keys without a meaning are ignored. Before a text is
read as a document, its placeholders are replaced.
-/

set_option autoImplicit false

namespace SchemaGate.Config

open Document (Complaint Record)

structure Logging where
  level : String
  jsonFormat : Bool
  deriving DecidableEq, Repr

structure Settings where
  connection : Connection
  logging : Logging
  deriving DecidableEq, Repr

namespace Logging

/-- What holds if nothing is said about logging. -/
def standard : Logging := ⟨"info", false⟩

/-- The logging part, as far as it is read. -/
structure Draft where
  level : Option String
  jsonFormat : Option Bool

def put (key : String) (v : Toml.Value) (d : Draft) : Except Complaint Draft :=
  if key = "level" then (Document.string v).map fun x => { d with level := some x }
  else (Document.boolean v).map fun x => { d with jsonFormat := some x }

def finish (d : Draft) : Except Complaint Logging :=
  .ok ⟨d.level.getD standard.level, d.jsonFormat.getD standard.jsonFormat⟩

def record : Record Draft Logging where
  name := "LoggingConfig"
  fields := [⟨"level", true⟩, ⟨"json_format", true⟩]
  closed := false
  start := ⟨none, none⟩
  put := put
  finish := finish

end Logging

namespace Connection

structure Draft where
  url : Option String
  logStatements : Option Bool

def put (key : String) (v : Toml.Value) (d : Draft) : Except Complaint Draft :=
  if key = "url" then (Document.string v).map fun x => { d with url := some x }
  else (Document.boolean v).map fun x => { d with logStatements := some x }

def finish (d : Draft) : Except Complaint Connection := do
  let url ← Document.require "url" d.url
  return ⟨url, d.logStatements.getD false⟩

def record : Record Draft Connection where
  name := "ConnectionConfig"
  fields := [⟨"url", false⟩, ⟨"log_statements", true⟩]
  closed := false
  start := ⟨none, none⟩
  put := put
  finish := finish

end Connection

namespace Settings

/-- The settings for a URL, with everything else as it is if nothing is said. -/
def ofUrl (url : String) : Settings := ⟨.ofUrl url, .standard⟩

structure Draft where
  connection : Option Connection
  logging : Option Logging

def put (key : String) (v : Toml.Value) (d : Draft) : Except Complaint Draft :=
  if key = "database" then
    (Connection.record.read v).map fun x => { d with connection := some x }
  else (Logging.record.read v).map fun x => { d with logging := some x }

def finish (d : Draft) : Except Complaint Settings := do
  let connection ← Document.require "database" d.connection
  return ⟨connection, d.logging.getD .standard⟩

def record : Record Draft Settings where
  name := "GateConfig"
  fields := [⟨"database", false⟩, ⟨"logging", true⟩]
  closed := false
  start := ⟨none, none⟩
  put := put
  finish := finish

def parse (env : Environment) (text : String) : Except Fault Settings :=
  match Toml.read? (substitute env text) with
  | none => .error (.malformed .grammar)
  | some entries => (record.ofEntries entries).mapError .malformed

def load (env : Environment) (files : Files) (path : String) : Except Fault Settings :=
  match files.readText path with
  | .ok text => parse env text
  | .error fault => .error (.unreadable fault)

end Settings

end SchemaGate.Config
