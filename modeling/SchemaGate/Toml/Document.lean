import SchemaGate.Toml.Grammar
/-!
Documents: key-value pairs, then sections, each a header and more pairs. A text that follows no
grammar, a key given twice, or a table opened twice makes the whole text no document.
-/

set_option autoImplicit false

namespace SchemaGate.Toml

inductive Line where
  | pair (key : List String × String) (v : Value)
  /-- A header; it may open one more table of an array. -/
  | header (item : Bool) (key : List String × String)

def header? (s : List Char) : Option (Line × List Char) :=
  match s with
  | '[' :: '[' :: r =>
    match key? r with
    | some (key, ']' :: ']' :: r) => some (.header true key, r)
    | _ => none
  | '[' :: r =>
    match key? r with
    | some (key, ']' :: r) => some (.header false key, r)
    | _ => none
  | _ => none

def statement? (s : List Char) : Option (Line × List Char) :=
  match s with
  | '[' :: _ => header? s
  | _ => (pair? (fuelFor s) nestingLimit s).map fun p => (.pair p.1.1 p.1.2, p.2)

/-- Reads all lines; the fuel bounds their number. -/
def linesFrom? : Nat → List Char → Option (List Line)
  | 0, _ => none
  | fuel + 1, s =>
    match trivia? s with
    | none => none
    | some [] => some []
    | some r =>
      match statement? r with
      | none => none
      | some (line, r) =>
        match endOfLine? r with
        | none => none
        | some r => (linesFrom? fuel r).map (line :: ·)

/-- Reads all lines of a text, after a byte order mark if there is one. -/
def lines? (s : List Char) : Option (List Line) :=
  let s := match s with
    | c :: r => if c = '\uFEFF' then r else s
    | [] => []
  linesFrom? (s.length + 1) s

/-- The pairs up to the next header, and the lines from there on. -/
def splitPairs : List Line → List ((List String × String) × Value) × List Line
  | .pair key v :: rest => let (pairs, lines) := splitPairs rest; ((key, v) :: pairs, lines)
  | lines => ([], lines)

def addSections : Nat → Entries → List Line → Option Entries
  | _, entries, [] => some entries
  | 0, _, _ => none
  | fuel + 1, entries, line :: rest =>
    match line with
    | .pair .. => none
    | .header item key =>
      let (pairs, lines) := splitPairs rest
      let added :=
        if item then entries.addTableItem key.1 key.2 pairs else entries.addTable key.1 key.2 pairs
      match added with
      | some entries => addSections fuel entries lines
      | none => none

def read? (text : String) : Option (List (String × Value)) :=
  match lines? text.toList with
  | none => none
  | some lines =>
    let (pairs, rest) := splitPairs lines
    match Entries.addPairs .header [] pairs with
    | none => none
    | some root => (addSections rest.length root rest).map entryValues

end SchemaGate.Toml
