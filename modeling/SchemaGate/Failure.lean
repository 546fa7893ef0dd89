import SchemaGate.Config.Fault
/-!
Why something did not work, by kind and cause. Each kind can also carry a text that was reported
from elsewhere. The message of a failure starts with its kind.
-/

set_option autoImplicit false

namespace SchemaGate

inductive UsageFault where
  | noDatabase
  | noDatabaseForTable (table : String)
  | reported (text : String)
  deriving DecidableEq, Repr

inductive ColumnFault where
  | twoDefaults
  | lengthWithoutType
  | twoBodies
  | noBody
  deriving DecidableEq, Repr

inductive PlanFault where
  | unreadable (path : String) (fault : ReadFault)
  | malformed (complaint : Document.Complaint)
  | column (table column : String) (fault : ColumnFault)
  | reported (text : String)
  deriving DecidableEq, Repr

structure ServerError where
  code : Nat
  state : String
  message : String
  deriving DecidableEq, Repr

inductive ConnectionFault where
  | unknownCharset (name : String)
  | unknownCollation (name : String)
  | noEncryption
  | rejected (error : ServerError)
  | unreachable
  | noSocket
  /-- The in-memory server was told to refuse. -/
  | refused
  | reported (text : String)
  deriving DecidableEq, Repr

inductive QueryFault where
  | existence (database inner : String)
  | version (database inner : String)
  | notInteger (key database value : String)
  | reported (text : String)
  deriving DecidableEq, Repr

inductive SqlFault where
  | protocol (text : String)
  | server (error : ServerError)
  | closed
  deriving DecidableEq, Repr

inductive Failure where
  | usage (fault : UsageFault)
  | config (fault : Config.Fault)
  | plan (fault : PlanFault)
  | connection (fault : ConnectionFault)
  | query (fault : QueryFault)
  /-- The queued statement of that index failed; the ones before it stay applied. -/
  | statement (index : Nat) (sql inner : String)
  | io (text : String)
  | sql (fault : SqlFault)
  deriving DecidableEq, Repr

namespace UsageFault

def message : UsageFault → String
  | noDatabase => "Please define a database to use!"
  | noDatabaseForTable table =>
    "Please define a database to use before creating table '" ++ table ++ "'"
  | reported text => text

end UsageFault

namespace ColumnFault

def message : ColumnFault → String
  | twoDefaults => "`default` and `default_null` are mutually exclusive"
  | lengthWithoutType => "`length` only applies to typed columns"
  | twoBodies => "set either `type` or `custom`, not both"
  | noBody => "one of `type` or `custom` is required"

end ColumnFault

namespace PlanFault

def message : PlanFault → String
  | unreadable path fault => "Failed to read plan " ++ path ++ ": " ++ fault.message
  | malformed complaint => "Failed to parse plan: " ++ complaint.message
  | column table name fault =>
    "table '" ++ table ++ "', column '" ++ name ++ "': " ++ fault.message
  | reported text => text

end PlanFault

namespace ServerError

/-- The error without the words that introduce it. -/
def render (e : ServerError) : String :=
  Text.ofNat e.code ++ " (" ++ e.state ++ "): " ++ e.message

end ServerError

namespace SqlFault

/-- What is said of a stream that ended where an answer should have begun. -/
def endOfStream : String := "expected to read 4 bytes, got 0 bytes at EOF"

def message : SqlFault → String
  | protocol text => "encountered unexpected or invalid data: " ++ text
  | server error => "error returned from database: " ++ error.render
  | closed => "error communicating with database: " ++ endOfStream

/-- The fault under the fault, for people. -/
def inner? : SqlFault → Option String
  | protocol _ => none
  | server error => some error.render
  | closed => some endOfStream

end SqlFault

namespace ConnectionFault

def message : ConnectionFault → String
  | unknownCharset name =>
    "Failed to connect: error with configuration: unsupported MySQL charset: " ++ name
  | unknownCollation name =>
    "Failed to connect: error with configuration: unsupported MySQL collation: " ++ name
  | noEncryption =>
    "Failed to connect: error occurred while attempting to establish a TLS connection: " ++
      "TLS upgrade required by connect options but SQLx was built without TLS support enabled"
  | rejected error => "Failed to connect: " ++ (SqlFault.server error).message
  | unreachable =>
    "Failed to connect: error communicating with database: Connection refused (os error 111)"
  | noSocket =>
    "Failed to connect: error communicating with database: No such file or directory (os error 2)"
  | refused => "Failed to connect: mock refused connection"
  | reported text => text

end ConnectionFault

namespace QueryFault

def message : QueryFault → String
  | existence database inner => "Failed to check database '" ++ database ++ "': " ++ inner
  | version database inner => "Failed to read schema version of '" ++ database ++ "': " ++ inner
  | notInteger key database value =>
    "Stored " ++ key ++ " of '" ++ database ++ "' is not an integer: " ++ value
  | reported text => text

end QueryFault

namespace Failure

def message : Failure → String
  | usage fault => "Usage error: " ++ fault.message
  | config fault => "Configuration error: " ++ fault.message
  | plan fault => "Plan error: " ++ fault.message
  | connection fault => "Connection error: " ++ fault.message
  | query fault => "Query error: " ++ fault.message
  | statement index text inner =>
    "Statement " ++ Text.ofNat index ++ " failed: " ++ inner ++ " (sql: " ++ text ++ ")"
  | io text => "IO error: " ++ text
  | sql fault => "SQL error: " ++ fault.message

/-- Whether the failure arose before any session was opened because of how a script was used. -/
def isUsage : Failure → Bool
  | usage _ => true
  | _ => false

end Failure

end SchemaGate
