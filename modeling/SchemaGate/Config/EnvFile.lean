import SchemaGate.Config.EnvFile.Assignment
import SchemaGate.Config.EnvFile.Line
import SchemaGate.Files
/-!
Environment files. The file is looked for in the working directory and then in each directory above
it, and the first one that is found counts. Its assignments hold for the variables that are not set,
up to the first line that cannot be read. A later line sees the variables of the lines before it.
-/

set_option autoImplicit false

namespace SchemaGate.Config

namespace Environment

def setIfUnset (env : Environment) (name value : String) : Environment :=
  if (env.get? name).isSome then env else env.set name value

end Environment

namespace EnvFile

def pathIn (place : Place) : String := "/" ++ "/".intercalate (".env" :: place).reverse

/-- Where the environment file of a directory is looked for, one place after the other. -/
def paths : Place → List String
  | [] => [pathIn []]
  | name :: above => pathIn (name :: above) :: paths above

/-- The content of the first file at some paths. A path where nothing lies, or a directory, is
passed over; any other fault ends the search. -/
def firstFile? (files : Files) : List String → Option Text.Bytes
  | [] => none
  | path :: rest =>
    match files.resolve path with
    | .ok (.file content) => some content
    | .ok .directory | .error .missing => firstFile? files rest
    | .error _ => none

def assign (env : Environment) : List (List Char) → Environment
  | [] => env
  | line :: rest =>
    match readLine env line with
    | .nothing => assign env rest
    | .assignment name value => assign (env.setIfUnset name value) rest
    | .malformed => env

/-- The environment after the environment file, if there is one. -/
def load (env : Environment) (files : Files) : Environment :=
  match firstFile? files (paths files.workplace) with
  | some content => assign env (lines content)
  | none => env

end EnvFile

end SchemaGate.Config
