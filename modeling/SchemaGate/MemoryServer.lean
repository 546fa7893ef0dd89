import SchemaGate.Dialogue
import SchemaGate.Text.Replace
/-!
A server in memory. It knows databases by name, each with or without a stored version; it answers
the gate's two queries from them, creates a database when it sees the statement that does, records
every query, and can be told to fail queries or to refuse sessions.
-/

set_option autoImplicit false

namespace SchemaGate

/-- The state of a server in memory. -/
structure MemoryServer where
  /-- The databases with their stored versions; a name occurs once. -/
  databases : List (String × Option Int)
  /-- The queries received, in order. -/
  queries : List String
  /-- How many sessions were opened. -/
  opened : Nat
  /-- A query fails if one of these texts stands in it. -/
  failing : List String
  refusing : Bool
  deriving DecidableEq, Repr

namespace MemoryServer

def empty : MemoryServer := ⟨[], [], 0, [], false⟩

/-- The stored version of a database, if there is such a database. -/
def version? (m : MemoryServer) (name : String) : Option (Option Int) :=
  (m.databases.find? fun d => d.1 == name).map Prod.snd

def has (m : MemoryServer) (name : String) : Bool := (m.version? name).isSome

/-- The server with a database that stores the given version or none. -/
def withDatabase (m : MemoryServer) (name : String) (version : Option Int) : MemoryServer :=
  { m with databases := (name, version) :: m.databases.filter fun d => d.1 != name }

/-- The server with a database of that name; one that is there already stays as it is. -/
def create (m : MemoryServer) (name : String) : MemoryServer :=
  if m.has name then m else m.withDatabase name none

/-- The server that also fails queries with this text in them. -/
def failOn (m : MemoryServer) (fragment : String) : MemoryServer :=
  { m with failing := m.failing ++ [fragment] }

def refuse (m : MemoryServer) : MemoryServer := { m with refusing := true }

def showLead : String := "SHOW DATABASES LIKE '"

def versionLead : String := "SELECT `value` FROM `"

def createLead : String := "CREATE DATABASE IF NOT EXISTS `"

/-- The text up to the first closing mark that stands alone; doubled marks stay doubled. -/
def upToClose (close : Char) : List Char → Option (List Char)
  | [] => none
  | c :: s =>
    if c = close then
      match s with
      | d :: r => if d = close then (upToClose close r).map (close :: close :: ·) else some []
      | [] => some []
    else (upToClose close s).map (c :: ·)

/-- What stands between a lead and the closing mark after it. -/
def quotedAfter? (sql lead : String) (close : Char) : Option (List Char) :=
  (Text.after? lead.toList sql.toList).bind (upToClose close)

/-- The name that a pattern stands for: doubled quotes are read first, then escaped backslashes. -/
def nameOfPattern (pattern : List Char) : String :=
  let unquoted := Text.replaceAll ['\x27', '\x27'] ['\x27'] pattern
  String.ofList (Text.replaceAll (List.replicate 4 '\x5c') ['\x5c'] unquoted)

def isLookup (sql : String) : Bool :=
  Text.startsWith showLead.toList sql.toList || Text.startsWith versionLead.toList sql.toList

/-- The queries received other than look-ups. -/
def statements (m : MemoryServer) : List String := m.queries.filter fun q => !isLookup q

def listed (m : MemoryServer) (name : String) : List Row :=
  if m.has name then [⟨[("Database (" ++ name ++ ")", .text name)]⟩] else []

def storedVersion (m : MemoryServer) (name : String) : Except Failure (List Row) :=
  match m.version? name with
  | some (some v) => .ok [⟨[("value", .int v)]⟩]
  | some none => .ok []
  | none => .error (.sql (.protocol ("Unknown database '" ++ name ++ "'")))

def fails (m : MemoryServer) (sql : String) : Bool :=
  m.failing.any fun fragment => Text.contains fragment.toList sql.toList

def answer (sql : String) (before : MemoryServer) : Except Failure (List Row) × MemoryServer :=
  let m := { before with queries := before.queries ++ [sql] }
  if m.fails sql then (.error (.sql (.protocol ("mock failure for: " ++ sql))), m)
  else
    match quotedAfter? sql showLead '\x27' with
    | some pattern => (.ok (m.listed (nameOfPattern pattern)), m)
    | none =>
      match quotedAfter? sql versionLead '\x60' with
      | some name => (m.storedVersion (String.ofList name), m)
      | none =>
        match quotedAfter? sql createLead '\x60' with
        | some name => (.ok [], m.create (String.ofList name))
        | none => (.ok [], m)

def acquire (_ : Config.Connection) (m : MemoryServer) :
    Except Failure (List Event) × MemoryServer :=
  if m.refusing then (.error (.connection .refused), m)
  else (.ok [], { m with opened := m.opened + 1 })

def server : Server MemoryServer := ⟨acquire, answer⟩

end MemoryServer

end SchemaGate
