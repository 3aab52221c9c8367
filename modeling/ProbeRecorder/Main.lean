import ProbeRecorder.Command.Run
import ProbeRecorder.Storage.Location

/-!
# `ProbeRecorder.Main` — the command on a real file system

Everything that is decided is decided by `ProbeRecorder.Command.Run`; this module reads the files and
variables that it needs, and prints what it gives.

## Contents
- **Reading.** `readText?`, `readDisk`.
- **Writing.** `writeDatabase`, `report`, `execute`.
- **Entry point.** `start` and `main`.
-/

namespace ProbeRecorder.Command

/-! ## Reading -/

/-- The content of a text file, if there is one. -/
def readText? (path : String) : IO (Option String) := do
  try return some (← IO.FS.readFile path)
  catch _ => return none

/-- The variables of the environment that mean anything. -/
def readVariables : IO (List (String × String)) := do
  let found ← Config.variableNames.mapM fun name => return (← IO.getEnv name).map fun v => (name, v)
  return found.filterMap id

/-- The configuration file: the first of its names under which there is one. -/
def readConfigFile (environment : List (String × String)) : IO (Option (String × String)) := do
  for name in Config.fileNames environment do
    if let some content ← readText? name then return some (name, content)
  return none

/-- The content of a database file. -/
def readDatabaseFile (path : String) : IO Database := do
  try
    let content ← IO.FS.readBinFile path
    match Tables.read? content.toList with
    | some tables => return .file tables
    | none => return .foreign
  catch
    | .noFileOrDirectory .. => return .missing
    | _ => return .directory

/-- The database of a name. -/
def readDatabase (name : Option DatabaseName) : IO Database := do
  match name with
  | none => return .directory
  | some n => if n.isTransient then return .missing else readDatabaseFile n.path

/-- The batch files that the index knows. -/
def readFolder (path : String) (rows : List BatchRow) : IO Folder := do
  let mut files : FiniteMap Int Bytes := .empty
  for row in rows do
    try
      let content ← IO.FS.readBinFile (path ++ "/" ++ batchFileName row.sequence)
      files := files.put row.sequence content.toList
    catch _ => pure ()
  return .directory files

/-- **The log at the configured place**, whose folder is made if it is missing. -/
def readDisk (c : StorageConfig) : IO Disk := do
  try
    unless c.batches = "" do IO.FS.createDirAll c.batches
    let database ← readDatabase (DatabaseName.ofText? c.database)
    let disk : Disk := { Disk.blank with database := database }
    let folder ← readFolder c.batches (disk.tables.batches.getD [])
    return { disk with folder := folder }
  catch _ => return { Disk.blank with folder := .file }

/-! ## Writing -/

/-- Writes the database of an opened log, if it is kept anywhere. -/
def writeDatabase (c : StorageConfig) (disk : Disk) : IO Unit := do
  if let some name := DatabaseName.ofText? c.database then
    unless name.isTransient do IO.FS.writeBinFile name.path ⟨disk.tables.write.toArray⟩

/-- Prints a failure and what it was caused by. -/
def report (f : Failure) : IO UInt32 := do
  match f.chain with
  | [] => pure ()
  | outer :: causes =>
    IO.eprintln ("Error: " ++ outer)
    unless causes.isEmpty do IO.eprintln ""
    unless causes.isEmpty do IO.eprintln "Caused by:"
    for cause in causes do IO.eprintln ("    " ++ cause)
  return f.exitCode.toUInt32

/-- Carries out an invocation. -/
def execute (i : Invocation) : IO UInt32 := do
  match configure i with
  | .error f => report f
  | .ok c =>
    match openDisk (← readDisk c.storage) with
    | .error f => report f
    | .ok disk =>
      writeDatabase c.storage disk
      match perform disk i.arguments with
      | .error f => report f
      | .ok text =>
        IO.print text
        return 0

/-- **Starts the command.** A log filter given in `PROBELOG_LOG` takes the place of the configured one. -/
def start (arguments : List String) : IO UInt32 := do
  let environment ← readVariables
  let file ← readConfigFile environment
  let filter ← IO.getEnv "PROBELOG_LOG"
  execute ⟨arguments, environment, file, filter.isSome⟩

end ProbeRecorder.Command

def main (arguments : List String) : IO UInt32 := ProbeRecorder.Command.start arguments
