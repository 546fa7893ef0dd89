import SchemaGate.Document.Complaint
import SchemaGate.Files
import SchemaGate.MySql.Address
/-!
What can be wrong with a configuration.
-/

set_option autoImplicit false

namespace SchemaGate.Config

inductive Fault where
  | unreadable (fault : ReadFault)
  | malformed (complaint : Document.Complaint)
  | emptyUrl
  | otherScheme (url : String)
  | noAddress (fault : MySql.Address.Fault)
  | reported (text : String)
  deriving DecidableEq, Repr

namespace Fault

def message : Fault → String
  | unreadable fault => "Failed to read config file: " ++ fault.message
  | malformed complaint => "Failed to parse config: " ++ complaint.message
  | emptyUrl => "database.url is empty"
  | otherScheme url => "database.url must start with mysql:// or mariadb://, got '" ++ url ++ "'"
  | noAddress fault => "Invalid database url: error with configuration: " ++ fault.message
  | reported text => text

end Fault

end SchemaGate.Config
