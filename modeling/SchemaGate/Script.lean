import SchemaGate.Config.Connection
import SchemaGate.Failure
import SchemaGate.Log.Emitter
import SchemaGate.Schema.Database
/-!
Scripts: a target version and a queue of statements, collected before anything is sent. Each step of
building a script gives the new script and the notes it told on the way; the listeners attached so
far observe them.
-/

set_option autoImplicit false

namespace SchemaGate

/-- Statements to send if the gate lets them through. -/
structure Script where
  target : Config.Connection
  version : Int
  /-- The statements in the order they are sent. -/
  queue : List String
  database : Option Schema.Database
  emitter : Option Log.Emitter

/-- Something together with the notes that were told on the way to it. -/
structure Told (α : Type) where
  value : α
  notes : List Note

namespace Script

def empty (target : Config.Connection) (version : Int) : Script := ⟨target, version, [], none, none⟩

def observe (s : Script) (notes : List Note) : List Observation :=
  notes.flatMap (Log.observe s.emitter)

def queueNotes (sql : String) : List Note :=
  [.event ⟨.trace, "Queueing statement", [("sql", sql)]⟩,
    .message .trace ("Adding SQL statement to queue: " ++ sql)]

def raw (s : Script) (sql : String) : Told Script :=
  ⟨{ s with queue := s.queue ++ [sql] }, queueNotes sql⟩

/-- The channel on which a new listener is welcomed. -/
def welcomeChannel : Log.Target → Log.Channel
  | .only c => c
  | .every => .debug

/-- Attaches a listener, which is the first to hear of it. -/
def attach (s : Script) (t : Log.Target) (sink : Log.Sink) : Told Script :=
  ⟨{ s with emitter := some ((s.emitter.getD .empty).subscribe t sink) },
    [.message (welcomeChannel t) ("Logging " ++ t.name ++ " events to custom logger.")]⟩

/-- Selects a database; what is queued stays. Its creation is queued unless it exists. -/
def useDatabase (s : Script) (d : Schema.Database) : Told Script :=
  if d.existing then
    ⟨{ s with database := some d },
      [.event ⟨.debug, "Using existing database", [("database", d.name)]⟩]⟩
  else
    ⟨{ s with queue := s.queue ++ [d.render], database := some d }, queueNotes d.render⟩

/-- The warning about a primary key that is no column. -/
def keyNotes (t : Schema.Table) : List Note :=
  if t.keyIsDeclared then []
  else
    [.event ⟨.warn, "Primary key does not name a column of the table",
      [("table", t.name), ("primary", t.primaryKey.getD "")]⟩]

def createTable (s : Script) (t : Schema.Table) : Except Failure (Told Script) :=
  match s.database with
  | none => .error (.usage (.noDatabaseForTable t.name))
  | some d =>
    let sql := t.render d.name
    .ok ⟨{ s with queue := s.queue ++ [sql] }, keyNotes t ++ queueNotes sql⟩

def renderOption (o : Option String) : String :=
  match o with
  | some text => "Some(" ++ text ++ ")"
  | none => "None"

def render (s : Script) : String :=
  "MigrationScript \x7b schema_version: " ++ Text.ofInt s.version ++
    ", database: " ++ renderOption (s.database.map fun d => Text.quoted d.name) ++
    ", statements: " ++ Text.ofNat s.queue.length ++
    ", logger: " ++ renderOption (s.emitter.map Log.Emitter.render) ++ " \x7d"

end Script

end SchemaGate
