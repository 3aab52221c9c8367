import ProbeRecorder.Command.LogFilter
import ProbeRecorder.Config.Load
import ProbeRecorder.Export.Calls
import ProbeRecorder.Storage.Disk

/-!
# `ProbeRecorder.Command.Run` — the command line

The command checks the configuration, opens the stored log, and reports what is in it.

## Contents
- **Input.** `Invocation`.
- **Failures.** `Failure`, a chain of messages from the outermost on.
- **Steps.** `configure` and `perform`.
- **Run.** `Invocation.run`.
-/

namespace ProbeRecorder

/-- **How the command is called.** -/
structure Invocation where
  arguments : List String
  environment : List (String × String)
  /-- Name and content of the configuration file, if it exists. -/
  file : Option (String × String)
  /-- A log filter is given from outside, so that the configured one is not used. -/
  hasLogFilter : Bool

/-- **A failure**: what went wrong, preceded by what was being done, and the exit code that tells of it. -/
structure Failure where
  chain : List String
  exitCode : Nat
  deriving DecidableEq, Repr

namespace Failure

def ofError (e : RecorderError) : Failure := ⟨[e.message], 1⟩

/-- The failure of doing something, and its cause. -/
def during (doing : String) (e : RecorderError) : Failure := ⟨[doing, e.message], 1⟩

/-- The command breaks off without a report. -/
def brokenOff : Failure := ⟨[], 101⟩

end Failure

namespace Command

/-- The error of a log filter that cannot be read. -/
def invalidLevel (level : String) : RecorderError :=
  Config.configError ("Invalid log level '" ++ level ++ "': invalid filter directive")

/-- Checks the log filter that is configured. -/
def checkLevel (level : String) : Except Failure Unit :=
  match LogFilter.check level with
  | .ok () => .ok ()
  | .error .unreadable => .error (Failure.ofError (invalidLevel level))
  | .error .cutWithinCharacter => .error Failure.brokenOff

/-- **The configuration** of a run, once everything in it is checked. -/
def configure (i : Invocation) : Except Failure Config := do
  let loaded ← (Config.load i.file i.environment).mapError (Failure.during "failed to load configuration")
  let c := loaded.applySwitch (i.environment.lookup Config.switchVariable)
  unless i.hasLogFilter do checkLevel c.logging.level
  let _ ← c.capturePolicy.mapError (Failure.during "refusing to start with an invalid capture policy")
  return c

/-- The format that is asked for. -/
def formatOf : List String → Except RecorderError ExportFormat
  | [] => .ok .json
  | name :: _ => ExportFormat.ofName name

/-- The text of the events, or of the calls that start in them. -/
def exportText (format : ExportFormat) (callsOnly : Bool) (entries : List Entry) : List Char :=
  let events := eventsOf entries
  if callsOnly then
    exportCalls format (correlate (AnchorTable.ofWeaves (weavesOf entries)) events)
  else exportEvents format events

/-- Exports the stored log. -/
def exportLog (disk : Disk) (callsOnly : Bool) (options : List String) :
    Except RecorderError String := do
  let format ← formatOf options
  let entries ← disk.readEntries
  return String.ofList (exportText format callsOnly entries ++ ['\n'])

/-- **What is printed** for the given arguments. -/
def perform (disk : Disk) : List String → Except Failure String
  | [] => (disk.stats.map fun _ => "").mapError Failure.ofError
  | "export" :: options => (exportLog disk false options).mapError Failure.ofError
  | "calls" :: options => (exportLog disk true options).mapError Failure.ofError
  | other :: _ =>
    .error ⟨["unknown command '" ++ other ++ "' (expected 'export' or 'calls')"], 1⟩

/-- Opens the storage. -/
def openDisk (disk : Disk) : Except Failure Disk :=
  match disk.prepare with
  | (.ok (), d) => .ok d
  | (.error e, _) => .error (Failure.ofError e)

end Command

/-- **Runs the command**; gives what it prints. The disk is the one found at the
    configured location. -/
def Invocation.run (i : Invocation) (diskAt : StorageConfig → Disk) : Except Failure String := do
  let c ← Command.configure i
  let disk ← Command.openDisk (diskAt c.storage)
  Command.perform disk i.arguments

end ProbeRecorder
