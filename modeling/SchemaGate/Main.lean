import SchemaGate.Command.Run
import SchemaGate.Command.Usage
import SchemaGate.MySql.Session
/-!
The program. It hands the arguments, the environment and the files that a command reads to the
command, and prints the report. It has no network, so every server is absent.
-/

set_option autoImplicit false

namespace SchemaGate.Program

def entryAt? (path : String) : IO (Option Entry) := do
  try
    return some (.file (← IO.FS.readBinFile path).toList)
  catch
    | .inappropriateType .. => return some .directory
    | _ => return none

/-- What lies at the end of a path and on the way to it. -/
def survey (files : Files) (path : String) : IO Files := do
  let mut here := if Files.isAbsolute path then "" else "."
  let mut place := files.start path
  let mut files := files
  for component in Files.components path do
    here := here ++ "/" ++ component
    place := Files.move place component
    if let some entry ← entryAt? here then
      files := { files with entries := (place.reverse, entry) :: files.entries }
  return files

def workingDirectory : IO Files := do
  let home := toString (← IO.currentDir)
  return ⟨(Files.components home).filter (· != ""), []⟩

def readVariable (entry : Text.Bytes) : Option (String × Text.Bytes) :=
  match entry.span (· != 61) with
  | (name, _ :: value) => some (Text.ofUtf8Lossy name, value)
  | _ => none

def environment : IO Config.Environment := do
  let content ← IO.FS.readBinFile "/proc/self/environ"
  return ⟨(content.toList.splitOn 0).filterMap readVariable⟩

def runCommand (command : Command) : IO UInt32 := do
  let here ← workingDirectory
  let files ← (command.paths here.workplace).foldlM survey here
  let report := command.run MySql.Session.server (← environment) files .absent
  IO.print report.output
  unless report.complaint.isEmpty do IO.eprintln report.complaint
  return report.exitCode.toUInt32

end SchemaGate.Program

open SchemaGate in
def main (args : List String) : IO UInt32 := do
  match Command.parse args with
  | some (.run command) => Program.runCommand command
  | some .version =>
    IO.print Command.versionText
    return 0
  | some .help =>
    IO.print Command.usageText
    return 0
  | none =>
    IO.eprint Command.usageText
    return 2
