import SchemaGate.Dialogue
import SchemaGate.Schema.Identifier
/-!
The two queries that the gate asks: whether a database exists, and which schema version it stores.
No such database and no such version are answers; only a failed query, or a stored version that is
no integer, is a failure.
-/

set_option autoImplicit false

namespace SchemaGate.Gate

def settingsTable : String := "config"

def versionKey : String := "schemaVersion"

/-- The version that an existing database without a stored one counts as. -/
def missingVersion : Int := -1

/-- One character of a name inside a pattern literal. A backslash is escaped once for the pattern
and once for the literal; a quote is doubled for the literal. Wildcards stay. -/
def patternChar (c : Char) : List Char :=
  if c = '\x5c' then ['\x5c', '\x5c', '\x5c', '\x5c']
  else if c = '\x27' then ['\x27', '\x27']
  else [c]

def existsQuery (name : String) : String :=
  "SHOW DATABASES LIKE '" ++ String.ofList (name.toList.flatMap patternChar) ++ "'"

def versionQuery (database : String) : String :=
  "SELECT `value` FROM " ++ Schema.Identifier.quote database ++ "." ++
    Schema.Identifier.quote settingsTable ++ " WHERE `key`=\"" ++ versionKey ++ "\";"

/-- Whether rows list exactly this name, for a pattern may list others as well. -/
def lists (name : String) (rows : List Row) : Bool :=
  rows.any fun r => (r.first?.bind Value.toText?) == some name

def versionValue? (r : Row) : Option Value := (r.get? "value").or r.first?

def readVersion (database : String) : List Row → Except Failure (Option Int)
  | [] => .ok none
  | r :: _ =>
    match versionValue? r with
    | none | some .null => .ok none
    | some v =>
      match v.toInt? with
      | some n => .ok (some n)
      | none => .error (.query (.notInteger versionKey database v.render))

def databaseExists (name : String) : Exchange Bool := do
  let rows ← Exchange.ask (existsQuery name)
  Exchange.event .trace "SHOW DATABASES result" [("rows", Text.ofNat rows.length)]
  return lists name rows

def versionEvent (database : String) : List Row → Event
  | [] => ⟨.trace, "no schema version row", [("database", database)]⟩
  | r :: _ => ⟨.trace, "schema version row", [("database", database), ("row", r.render)]⟩

def schemaVersion (database : String) : Exchange (Option Int) := do
  let rows ← Exchange.ask (versionQuery database)
  Exchange.tell (.event (versionEvent database rows))
  ExceptT.mk (.done (readVersion database rows))

end SchemaGate.Gate
