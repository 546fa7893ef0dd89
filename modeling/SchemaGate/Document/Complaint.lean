import SchemaGate.Text.Binary64
import SchemaGate.Text.Quoted
/-!
What is wrong with a document. Either its text is no document at all, or a record read from it lacks
something, has something it should not, or has something of the wrong kind.
-/

set_option autoImplicit false

namespace SchemaGate.Document

inductive Found where
  | integer (v : Int)
  | float (v : Text.Binary64)
  | boolean (b : Bool)
  | string (s : String)
  | sequence
  | map
  deriving DecidableEq, Repr

namespace Found

def render : Found → String
  | integer v => "integer `" ++ Text.ofInt v ++ "`"
  | float v => "floating point `" ++ v.render ++ "`"
  | boolean b => "boolean `" ++ (if b then "true" else "false") ++ "`"
  | string s => "string " ++ Text.quoted s
  | sequence => "sequence"
  | map => "map"

end Found

inductive Wanted where
  | string
  | boolean
  | signed64
  | unsigned32
  | sequence
  | record (name : String)
  deriving DecidableEq, Repr

namespace Wanted

def render : Wanted → String
  | string => "a string"
  | boolean => "a boolean"
  | signed64 => "i64"
  | unsigned32 => "u32"
  | sequence => "a sequence"
  | record name => "struct " ++ name

end Wanted

/-- What is wrong with a document. -/
inductive Complaint where
  /-- The text follows no grammar of documents. -/
  | grammar
  | missing (field : String)
  | unknown (field : String) (expected : List String)
  | wrongKind (found : Found) (wanted : Wanted)
  | outOfRange (value : Int) (wanted : Wanted)
  /-- A record written as a sequence ends too early. -/
  | tooShort (length : Nat) (record : String) (size : Nat)
  deriving DecidableEq, Repr

namespace Complaint

def fieldName (name : String) : String := "`" ++ name ++ "`"

def message : Complaint → String
  | grammar => "(syntax)"
  | missing field => "missing field " ++ fieldName field
  | unknown field expected =>
    "unknown field " ++ fieldName field ++ ", expected one of " ++
      ", ".intercalate (expected.map fieldName)
  | wrongKind found wanted =>
    "invalid type: " ++ found.render ++ ", expected " ++ wanted.render
  | outOfRange value wanted =>
    "invalid value: integer `" ++ Text.ofInt value ++ "`, expected " ++ wanted.render
  | tooShort length record size =>
    "invalid length " ++ Text.ofNat length ++ ", expected struct " ++ record ++ " with " ++
      Text.ofNat size ++ " elements"

end Complaint

end SchemaGate.Document
