import SchemaGate.Command
import SchemaGate.Command.Fault
import SchemaGate.Config.EnvFile
import SchemaGate.Config.Settings
import SchemaGate.Plan.Document
import SchemaGate.Plan.Script
import SchemaGate.Script.Run
/-!
Running commands. A command that needs a configuration first prepares it: the environment file is
read, then the configuration, and then events are logged as the configuration says. What a command
does afterwards is an exchange with whatever server there is.
-/

set_option autoImplicit false

namespace SchemaGate.Command

def paths (workplace : Place) : Command → List String
  | render plan => [plan]
  | apply plan config _ _ => Config.EnvFile.paths workplace ++ [config, plan]
  | status _ config => Config.EnvFile.paths workplace ++ [config]

/-- The variable that says which events are logged, in place of the configuration. -/
def filterVariable : String := "RUST_LOG"

/-- The settings as they are in effect in an environment. The variable is taken at its word: a text
in it that is no filter for events is not told from one that is, although the level of the
configuration would then stay in effect. -/
def inEffect (env : Config.Environment) (settings : Config.Settings) : Config.Settings :=
  { settings with
    logging.level := (env.get? filterVariable).getD settings.logging.level }

def prepare (env : Config.Environment) (files : Files) (path : String) :
    Except Fault Config.Settings :=
  let env := Config.EnvFile.load env files
  if !files.leadsSomewhere path then .error (.noConfiguration path)
  else
    match Config.Settings.load env files path with
    | .error fault => .error (.failure (.config fault))
    | .ok settings =>
      match settings.connection.check with
      | .error fault => .error (.failure (.config fault))
      | .ok _ => .ok (inEffect env settings)

def loadPlan (files : Files) (path : String) : Exchange Plan :=
  ExceptT.mk (.done ((Plan.load files path).mapError .plan))

def makeScript (plan : Plan) (target : Config.Connection) : Exchange Script := do
  let made := plan.toScript target
  Script.tellAll made.notes
  ExceptT.mk (.done made.value)

def renderPlan (files : Files) (path : String) : Exchange Unit := do
  let plan ← loadPlan files path
  let script ← makeScript plan (.ofUrl "")
  script.queue.forM fun sql => Exchange.print (sql ++ "\n")

def terminal : Log.Sink := ⟨"terminal", fun _ => false⟩

def audience (verbose : Bool) : Option Log.Emitter :=
  if verbose then some (Log.Emitter.empty.subscribe (.only .debug) terminal) else none

/-- The script with the terminal listening to the gate's decisions, if that is asked for. -/
def listening (verbose : Bool) (s : Script) : Told Script :=
  if verbose then s.attach (.only .debug) terminal else ⟨s, []⟩

def applyHeading (path : String) (plan : Plan) : String :=
  "\n  → Applying " ++ path ++ " to " ++ plan.database.name ++ " (version " ++
    Text.ofInt plan.version ++ ")\n"

def outcomeText (database : String) : Outcome → String
  | .applied current _ statements =>
    "  ✓ Applied " ++ Text.ofNat statements ++ " statement(s) (stored version: " ++
      Script.renderVersion current ++ ")\n"
  | .skipped current _ =>
    "  ℹ Skipped: " ++ database ++ " is already at version " ++ Text.ofInt current ++ "\n"

def applyPlan (files : Files) (path : String) (increase verbose : Bool)
    (target : Config.Connection) : Exchange Unit := do
  let plan ← loadPlan files path
  let script ← makeScript plan target
  let attached := listening verbose script
  Script.tellAll attached.notes
  Exchange.print (applyHeading path plan)
  let outcome ← attached.value.execute increase
  Exchange.print (outcomeText plan.database.name outcome)
  Exchange.print "\n"

def statusText (database : String) : Option (Option Int) → String
  | none => "  ✗ Database " ++ database ++ " does not exist\n"
  | some none =>
    "  ℹ " ++ database ++ " has no stored schema version (gated as " ++
      Text.ofInt Gate.missingVersion ++ ")\n"
  | some (some version) =>
    "  ✓ " ++ database ++ " is at schema version " ++ Text.ofInt version ++ "\n"

/-- Asks whether a database exists and, if it does, which version it stores. -/
def lookUp (database : String) : Exchange (Option (Option Int)) := do
  if ← Gate.databaseExists database then
    let version ← Gate.schemaVersion database
    return some version
  else
    return none

def tellStatus (database : String) (target : Config.Connection) : Exchange Unit := do
  Exchange.acquire target
  Exchange.print "\n"
  let found ← lookUp database
  Exchange.print (statusText database found)
  Exchange.print "\n"

structure Report (σ : Type) where
  /-- What went wrong, if something did. -/
  fault : Option Fault
  /-- How events were logged, if the command got that far. -/
  logging : Option Config.Logging
  /-- All that was seen, in order. -/
  seen : List Observation
  /-- The queries asked, in order. -/
  asked : List String
  /-- The state the server was left in. -/
  state : σ

namespace Report

/-- The report of a command that failed before it met the server. -/
def unprepared {σ : Type} (fault : Fault) (s : σ) : Report σ := ⟨some fault, none, [], [], s⟩

/-- The report of a command that met the server, with or without the terminal listening. -/
def ofRun {σ : Type} (logging : Option Config.Logging) (verbose : Bool)
    (r : Run (Except Failure Unit) σ) : Report σ :=
  { fault :=
      match r.result with
      | .ok _ => none
      | .error e => some (.failure e)
    logging := logging
    seen := r.notes.flatMap (Log.observe (audience verbose))
    asked := r.asked
    state := r.state }

def shown : Observation → String
  | .event _ => ""
  | .delivered _ text => "  · " ++ text ++ "\n"
  | .printed text => text

def output {σ : Type} (r : Report σ) : String := String.join (r.seen.map shown)

def complaint {σ : Type} (r : Report σ) : String :=
  match r.fault with
  | some fault => fault.report
  | none => ""

def exitCode {σ : Type} (r : Report σ) : Nat := if r.fault.isSome then 1 else 0

end Report

def run {σ : Type} (command : Command) (server : Server σ) (env : Config.Environment)
    (files : Files) (s : σ) : Report σ :=
  match command with
  | .render plan => .ofRun none false (Dialogue.run server (renderPlan files plan).run s)
  | .apply plan config increase verbose =>
    match prepare env files config with
    | .error fault => .unprepared fault s
    | .ok settings =>
      .ofRun settings.logging verbose
        (Dialogue.run server (applyPlan files plan increase verbose settings.connection).run s)
  | .status database config =>
    match prepare env files config with
    | .error fault => .unprepared fault s
    | .ok settings =>
      .ofRun settings.logging false
        (Dialogue.run server (tellStatus database settings.connection).run s)

end SchemaGate.Command
