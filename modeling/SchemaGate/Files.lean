import SchemaGate.Text.Utf8
/-!
Files and directories, and what a path leads to. A path is walked component by component, from the
root or from the working directory: a dot stays, two dots go up, a name goes down. Every file may be
read, and every directory searched.
-/

set_option autoImplicit false

namespace SchemaGate

inductive Entry where
  | file (content : Text.Bytes)
  | directory
  deriving DecidableEq, Repr

/-- Files and directories, each at the components of its path from the root. -/
structure Files where
  /-- The components of the working directory. -/
  home : List String
  entries : List (List String × Entry)

inductive ReadFault where
  | missing
  | isDirectory
  | notDirectory
  | nameTooLong
  | nulInName
  | notUtf8
  deriving DecidableEq, Repr

namespace ReadFault

def message : ReadFault → String
  | missing => "No such file or directory (os error 2)"
  | isDirectory => "Is a directory (os error 21)"
  | notDirectory => "Not a directory (os error 20)"
  | nameTooLong => "File name too long (os error 36)"
  | nulInName => "file name contained an unexpected NUL byte"
  | notUtf8 => "stream did not contain valid UTF-8"

end ReadFault

/-- A place in the tree of directories: the components of its path, the last one first. -/
abbrev Place := List String

namespace Files

/-- The components of a path; the empty ones stand for the directory before them. -/
def components (path : String) : List String :=
  (path.toList.splitOn '/').map String.ofList

def isAbsolute (path : String) : Bool := path.toList.head? == some '/'

/-- The working directory of a tree in which nothing else matters. -/
def defaultHome : List String := ["home"]

/-- The files of a working directory, named by their paths in it. -/
def ofList (files : List (String × Entry)) : Files :=
  ⟨defaultHome,
    files.map fun f => (defaultHome ++ (components f.1).filter fun c => c ≠ "" && c ≠ ".", f.2)⟩

def empty : Files := ofList []

/-- What lies at a place. Whatever an entry or the working directory lies in is a directory. -/
def at? (files : Files) (place : Place) : Option Entry :=
  let path := place.reverse
  match files.entries.find? fun e => e.1 == path with
  | some e => some e.2
  | none =>
    if path.isPrefixOf files.home || files.entries.any fun e => path.isPrefixOf e.1 then
      some .directory
    else none

/-- Where one component leads from a directory. Nothing lies above the root. -/
def move (place : Place) (component : String) : Place :=
  if component = "" || component = "." then place
  else if component = ".." then place.drop 1
  else component :: place

/-- Takes one component of a path, which only directories have. -/
def step (files : Files) (place : Place) (component : String) : Except ReadFault Place :=
  match files.at? place with
  | none => .error .missing
  | some (.file _) => .error .notDirectory
  | some .directory =>
    if 255 < component.utf8ByteSize then .error .nameTooLong else .ok (move place component)

def workplace (files : Files) : Place := files.home.reverse

def start (files : Files) (path : String) : Place :=
  if isAbsolute path then [] else files.workplace

def resolve (files : Files) (path : String) : Except ReadFault Entry :=
  if path.toList.contains '\x00' then .error .nulInName
  else if path.isEmpty then .error .missing
  else if 4096 ≤ path.utf8ByteSize then .error .nameTooLong
  else
    match (components path).foldlM files.step (files.start path) with
    | .error e => .error e
    | .ok place =>
      match files.at? place with
      | some entry => .ok entry
      | none => .error .missing

def leadsSomewhere (files : Files) (path : String) : Bool :=
  match files.resolve path with
  | .ok _ => true
  | .error _ => false

def readBytes (files : Files) (path : String) : Except ReadFault Text.Bytes :=
  match files.resolve path with
  | .error e => .error e
  | .ok .directory => .error .isDirectory
  | .ok (.file content) => .ok content

def readText (files : Files) (path : String) : Except ReadFault String :=
  match files.readBytes path with
  | .error e => .error e
  | .ok content =>
    match Text.ofUtf8? content with
    | some text => .ok text
    | none => .error .notUtf8

end Files

end SchemaGate
