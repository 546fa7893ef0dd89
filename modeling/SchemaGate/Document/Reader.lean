import SchemaGate.Document.Complaint
import SchemaGate.Toml.Value
/-!
Reading values out of a document. A record is read from a table key by key, in the order of the
document, so the first complaint is about the first key that is unknown or has a wrong value; what
is missing is noticed at the end. A record may also be written as a sequence of its fields.
-/

set_option autoImplicit false

namespace SchemaGate.Document

abbrev Reader (α : Type) := Toml.Value → Except Complaint α

def found : Toml.Value → Found
  | .string s => .string s
  | .integer v => .integer v
  | .float v => .float v
  | .boolean b => .boolean b
  | .dateTime _ => .map
  | .array _ => .sequence
  | .table _ => .map

def refuse {α : Type} (wanted : Wanted) (v : Toml.Value) : Except Complaint α :=
  .error (.wrongKind (found v) wanted)

def string : Reader String
  | .string s => .ok s
  | v => refuse .string v

def boolean : Reader Bool
  | .boolean b => .ok b
  | v => refuse .boolean v

/-- Reads a signed integer of 64 bits, which every integer of a document is. -/
def signed64 : Reader Int
  | .integer v => .ok v
  | v => refuse .signed64 v

def unsigned32Limit : Nat := 4294967296

def unsigned32 : Reader Nat
  | .integer v =>
    if 0 ≤ v && v < unsigned32Limit then .ok v.toNat else .error (.outOfRange v .unsigned32)
  | v => refuse .unsigned32 v

def sequence {α : Type} (item : Reader α) : Reader (List α)
  | .array items => items.mapM item
  | v => refuse .sequence v

/-- A field of a record: its name, and whether a record written as a sequence may end before it. -/
structure Field where
  name : String
  omissible : Bool

/-- How a record is read into a draft, and the draft made into the record. -/
structure Record (δ α : Type) where
  name : String
  /-- The fields in their order. -/
  fields : List Field
  /-- Whether other keys are refused. -/
  closed : Bool
  /-- A draft of which nothing has been read. -/
  start : δ
  /-- Reads the value of a field into a draft. -/
  put : String → Toml.Value → δ → Except Complaint δ
  /-- Makes the record of a draft, or complains about the first field that is missing. -/
  finish : δ → Except Complaint α

namespace Record

variable {δ α : Type}

def has (r : Record δ α) (key : String) : Bool := r.fields.any fun f => f.name == key

def putEntry (r : Record δ α) (draft : δ) (entry : String × Toml.Value) : Except Complaint δ :=
  if r.has entry.1 then r.put entry.1 entry.2 draft
  else if r.closed then .error (.unknown entry.1 (r.fields.map Field.name))
  else .ok draft

def ofEntries (r : Record δ α) (entries : List (String × Toml.Value)) : Except Complaint α :=
  match entries.foldlM r.putEntry r.start with
  | .ok draft => r.finish draft
  | .error complaint => .error complaint

/-- Reads the remaining fields from the remaining items of a sequence; `index` counts those before.
Items beyond the last field do not count. -/
def putItems (r : Record δ α) : Nat → List Field → List Toml.Value → δ → Except Complaint δ
  | _, [], _, draft => .ok draft
  | index, f :: fields, [], draft =>
    if f.omissible then r.putItems (index + 1) fields [] draft
    else .error (.tooShort index r.name r.fields.length)
  | index, f :: fields, v :: items, draft =>
    match r.put f.name v draft with
    | .ok draft => r.putItems (index + 1) fields items draft
    | .error complaint => .error complaint

def ofItems (r : Record δ α) (items : List Toml.Value) : Except Complaint α :=
  match r.putItems 0 r.fields items r.start with
  | .ok draft => r.finish draft
  | .error complaint => .error complaint

/-- The key under which a date or time that is taken for a table holds its text. -/
def dateTimeKey : String := "$__toml_private_datetime"

def read (r : Record δ α) : Reader α
  | .table entries => r.ofEntries entries
  | .array items => r.ofItems items
  | .dateTime text => r.ofEntries [(dateTimeKey, .string text)]
  | v => refuse (.record r.name) v

end Record

def require {α : Type} (field : String) : Option α → Except Complaint α
  | some v => .ok v
  | none => .error (.missing field)

end SchemaGate.Document
