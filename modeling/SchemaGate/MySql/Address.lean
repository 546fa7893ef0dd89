import SchemaGate.Url
import SchemaGate.Text.Quoted
/-!
Server addresses: what a URL says about a session. User, password and database name may be
percent-encoded; of the query, the options known here count and all others are ignored.
-/

set_option autoImplicit false

namespace SchemaGate.MySql

inductive Encryption where
  | disabled
  | preferred
  | required
  | verifyAuthority
  | verifyIdentity
  deriving DecidableEq, Repr

namespace Encryption

/-- Reads the word for an encryption mode, in any mixture of ASCII cases. -/
def ofName? (word : String) : Option Encryption :=
  let lower := String.ofList (word.toList.map Char.toLower)
  if lower = "disabled" then some .disabled
  else if lower = "preferred" then some .preferred
  else if lower = "required" then some .required
  else if lower = "verify_ca" then some .verifyAuthority
  else if lower = "verify_identity" then some .verifyIdentity
  else none

/-- Whether a session without encryption is refused. -/
def isMandatory : Encryption → Bool
  | disabled | preferred => false
  | required | verifyAuthority | verifyIdentity => true

end Encryption

structure Address where
  user : Option String
  password : Option String
  database : Option String
  /-- The socket to use in place of the network. -/
  socket : Option String
  encryption : Encryption
  charset : String
  collation : Option String
  deriving DecidableEq, Repr

namespace Address

inductive Fault where
  | url (fault : Url.Fault)
  | encoding (fault : Text.Utf8.Fault)
  | unknownEncryption (word : String)
  | capacity (fault : Text.UnsignedFault)
  deriving DecidableEq, Repr

def encodingMessage : Text.Utf8.Fault → String
  | .invalid size offset =>
    "invalid utf-8 sequence of " ++ Text.ofNat size ++ " bytes from index " ++ Text.ofNat offset
  | .incomplete offset => "incomplete utf-8 byte sequence from index " ++ Text.ofNat offset

def Fault.message : Fault → String
  | url fault => fault.message
  | encoding fault => encodingMessage fault
  | unknownEncryption word =>
    "error with configuration: unknown value " ++ Text.quoted word ++ " for `ssl_mode`"
  | capacity fault => fault.message

/-- The text that a part of a URL stands for; an empty part says nothing. -/
def decodePart (part : List Char) : Except Fault (Option String) :=
  if part.isEmpty then .ok none
  else
    match Text.Utf8.fault? (Url.percentDecode part) with
    | some fault => .error (.encoding fault)
    | none => .ok (some (Text.ofUtf8Lossy (Url.percentDecode part)))

def withOption (a : Address) (option : String × String) : Except Fault Address :=
  let (name, value) := option
  if name = "ssl-mode" || name = "sslmode" then
    match Encryption.ofName? value with
    | some mode => .ok { a with encryption := mode }
    | none => .error (.unknownEncryption value)
  else if name = "socket" then .ok { a with socket := some value }
  else if name = "charset" then .ok { a with charset := value }
  else if name = "collation" then .ok { a with collation := some value }
  else if name = "statement-cache-capacity" then
    match Text.readUnsigned64 value.toList with
    | .ok _ => .ok a
    | .error fault => .error (.capacity fault)
  else .ok a

def ofUrl (text : List Char) : Except Fault Address := do
  let url ← (Url.ofAuthority (Url.significant text)).mapError Fault.url
  let user ← decodePart url.username
  let password ← decodePart url.password
  let database ← decodePart (url.pathText.dropWhile (· == '/'))
  url.queryPairs.foldlM withOption ⟨user, password, database, none, .preferred, "utf8mb4", none⟩

end Address

end SchemaGate.MySql
