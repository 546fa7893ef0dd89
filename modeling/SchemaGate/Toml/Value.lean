import SchemaGate.Text.Binary64
/-!
Values of a TOML document. Tables keep their entries in the order in which the document gives them.
-/

set_option autoImplicit false

namespace SchemaGate.Toml

inductive Value where
  | string (s : String)
  | integer (v : Int)
  | float (v : Text.Binary64)
  | boolean (b : Bool)
  /-- A date, a time, or both, as it is written. -/
  | dateTime (text : String)
  | array (items : List Value)
  | table (entries : List (String × Value))

end SchemaGate.Toml
