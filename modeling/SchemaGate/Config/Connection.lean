import SchemaGate.Config.Fault
import SchemaGate.Text.Blank
import SchemaGate.Text.Replace
/-!
The connection part of a configuration: which server, and whether its statements are logged.
-/

set_option autoImplicit false

namespace SchemaGate.Config

structure Connection where
  url : String
  logStatements : Bool
  deriving DecidableEq, Repr

namespace Connection

/-- The connection to a URL, without statement logging. -/
def ofUrl (url : String) : Connection := ⟨url, false⟩

/-- The schemes of usable URLs, with the slashes after them. -/
def schemes : List String := ["mysql://", "mariadb://"]

def afterScheme? (url : String) : Option (List Char) :=
  schemes.findSome? fun scheme => Text.after? scheme.toList url.toList

/-- Checks that the URL is not blank and has a usable scheme. -/
def check (c : Connection) : Except Fault Unit :=
  if (Text.trim c.url.toList).isEmpty then .error .emptyUrl
  else if (afterScheme? c.url).isNone then .error (.otherScheme c.url)
  else .ok ()

/-- The server's address, if the URL passes the check and says one. -/
def address (c : Connection) : Except Fault MySql.Address :=
  match c.check, afterScheme? c.url with
  | .error fault, _ => .error fault
  | .ok _, none => .error (.otherScheme c.url)
  | .ok _, some rest => (MySql.Address.ofUrl rest).mapError .noAddress

end Connection

end SchemaGate.Config
