import SchemaGate.Gate.Decision
import SchemaGate.Gate.Lookup
import SchemaGate.Script
/-!
Running a script. The gate looks the database up, compares its version with the script's, and either
declines or lets the whole queue through, in order, until a statement fails.
-/

set_option autoImplicit false

namespace SchemaGate

inductive Outcome where
  /-- Every statement was sent. -/
  | applied (current : Option Int) (target : Int) (statements : Nat)
  /-- The gate declined, and nothing was sent. -/
  | skipped (current target : Int)
  deriving DecidableEq, Repr

namespace Outcome

def isApplied : Outcome → Bool
  | applied .. => true
  | skipped .. => false

def statementsSent : Outcome → Nat
  | applied _ _ n => n
  | skipped .. => 0

end Outcome

namespace Script

def renderVersion : Option Int → String
  | some v => Text.ofInt v
  | none => "none"

/-- Looks up which version the database stores; none if it does not exist. -/
def lookUp (name : String) : Exchange (Option Int) := do
  let found ← (Gate.databaseExists name).orFail fun e => .query (.existence name e.message)
  Exchange.tell (.message .trace
    ("Database '" ++ name ++ "' exists: " ++ (if found then "true" else "false")))
  if found then
    let stored ← (Gate.schemaVersion name).orFail fun e => .query (.version name e.message)
    let version := stored.getD Gate.missingVersion
    Exchange.tell (.message .trace
      ("Stored schema version of '" ++ name ++ "': " ++ Text.ofInt version))
    return some version
  else
    return none

def rowNotes (index : Nat) (rows : List Row) : List Note :=
  if rows.isEmpty then []
  else
    [.message .trace
      ("Statement " ++ Text.ofNat index ++ " returned " ++ Text.ofNat rows.length ++ " row(s)")]

def tellAll (notes : List Note) : Exchange Unit := notes.forM Exchange.tell

/-- Sends statements, the first of which has the given index, until one fails. -/
def send : Nat → List String → Exchange Unit
  | _, [] => return ()
  | index, sql :: rest => do
    Exchange.event .trace "Sending statement" [("index", Text.ofNat index), ("sql", sql)]
    let rows ← (Exchange.ask sql).orFail fun e => .statement index sql e.message
    tellAll (rowNotes index rows)
    send (index + 1) rest

def announce (text : String) : Exchange Unit := do
  Exchange.event .info text []
  Exchange.tell (.message .debug text)

def skipText (name : String) (version current : Int) : String :=
  "Not executing migration script to version '" ++ Text.ofInt version ++ "', database '" ++ name ++
    "' is at version '" ++ Text.ofInt current ++ "'."

def runText (name : String) (version : Int) (current : Option Int) : String :=
  "Starting database migration of '" ++ name ++ "' from version '" ++ renderVersion current ++
    "' to version '" ++ Text.ofInt version ++ "'."

/-- Runs a script. The stored version is never written, also if an increase is asked for. -/
def execute (s : Script) (increase : Bool) : Exchange Outcome := do
  match s.database with
  | none => throw (.usage .noDatabase)
  | some d =>
    Exchange.acquire s.target
    let current ← lookUp d.name
    if increase then
      Exchange.event .debug
        "Version increase requested; the stored version is left unchanged" []
    match Gate.Decision.ofVersions s.version current, current with
    | .skip, some c =>
      announce (skipText d.name s.version c)
      return .skipped c s.version
    | _, _ =>
      announce (runText d.name s.version current)
      send 0 s.queue
      Exchange.event .info "Migration applied" [("statements", Text.ofNat s.queue.length)]
      return .applied current s.version s.queue.length

end Script

end SchemaGate
