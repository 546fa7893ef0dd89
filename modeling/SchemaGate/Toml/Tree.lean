import SchemaGate.Toml.Value
/-!
Tables under construction. Entries come from key-value pairs, whose keys may be dotted, and from
headers. A table remembers where it came from, because a header may only open a table that nothing
but deeper headers has implied so far, and a dotted key may only add to tables made by dotted keys.
-/

set_option autoImplicit false

namespace SchemaGate.Toml

inductive Origin where
  | header
  | implied
  | dotted
  deriving DecidableEq, Repr

inductive Node where
  | leaf (v : Value)
  | table (origin : Origin) (entries : List (String × Node))
  /-- The tables of an array that headers add to; each is a `table`. -/
  | tables (items : List Node)

/-- The entries of a table under construction, in order. -/
abbrev Entries := List (String × Node)

namespace Entries

def get? (entries : Entries) (key : String) : Option Node :=
  (entries.find? fun e => e.1 == key).map Prod.snd

/-- The entries with another node under a key that is there. -/
def set (entries : Entries) (key : String) (node : Node) : Entries :=
  entries.map fun e => if e.1 == key then (key, node) else e

def erase (entries : Entries) (key : String) : Entries := entries.filter fun e => e.1 != key

/-- Changes the table at the end of a path, making the tables that are missing on the way. With
`dotted` the path comes from a dotted key, which may not pass through a table that has a header. -/
def within (dotted : Bool) (f : Origin → Entries → Option Entries) :
    List String → Origin → Entries → Option Entries
  | [], origin, entries => f origin entries
  | key :: path, _, entries =>
    match get? entries key with
    | none =>
      let made := if dotted then Origin.dotted else Origin.implied
      (within dotted f path made []).map fun sub => entries ++ [(key, .table made sub)]
    | some (.leaf _) => none
    | some (.table origin sub) =>
      if dotted && origin = .header then none
      else (within dotted f path origin sub).map fun sub => set entries key (.table origin sub)
    | some (.tables items) =>
      match items.getLast? with
      | some (.table origin sub) =>
        (within dotted f path origin sub).map fun sub =>
          set entries key (.tables (items.dropLast ++ [.table origin sub]))
      | _ => none

/-- Adds a key-value pair. A key may not occur twice, and a dotted key adds only to a table that
dotted keys have made. -/
def addPair (origin : Origin) (entries : Entries) (path : List String) (key : String) (v : Value) :
    Option Entries :=
  let add (reached : Origin) (entries : Entries) : Option Entries :=
    if !path.isEmpty && reached ≠ .dotted then none
    else if (get? entries key).isSome then none
    else some (entries ++ [(key, .leaf v)])
  within true add path origin entries

def addPairs (origin : Origin) :
    Entries → List ((List String × String) × Value) → Option Entries
  | entries, [] => some entries
  | entries, p :: rest =>
    match addPair origin entries p.1.1 p.1.2 p.2 with
    | some entries => addPairs origin entries rest
    | none => none

/-- Adds a table with a header: a new one, or one that deeper headers have implied. -/
def addTable (entries : Entries) (path : List String) (key : String)
    (pairs : List ((List String × String) × Value)) : Option Entries :=
  let add (_ : Origin) (entries : Entries) : Option Entries :=
    let started := match get? entries key with
      | none => some []
      | some (.table .implied sub) => some sub
      | some _ => none
    match started with
    | none => none
    | some sub =>
      (addPairs .header sub pairs).map fun sub => erase entries key ++ [(key, .table .header sub)]
  within false add path .header entries

def addTableItem (entries : Entries) (path : List String) (key : String)
    (pairs : List ((List String × String) × Value)) : Option Entries :=
  let add (_ : Origin) (entries : Entries) : Option Entries :=
    match addPairs .header [] pairs, get? entries key with
    | some sub, none => some (entries ++ [(key, .tables [.table .header sub])])
    | some sub, some (.tables items) =>
      some (set entries key (.tables (items ++ [.table .header sub])))
    | _, _ => none
  within false add path .header entries

end Entries

mutual

def Node.value : Node → Value
  | .leaf v => v
  | .table _ entries => .table (entryValues entries)
  | .tables items => .array (nodeValues items)

def nodeValues : List Node → List Value
  | [] => []
  | n :: rest => n.value :: nodeValues rest

def entryValues : List (String × Node) → List (String × Value)
  | [] => []
  | e :: rest => (e.1, e.2.value) :: entryValues rest

end

end SchemaGate.Toml
