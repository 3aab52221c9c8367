import ProbeRecorder.Config.Basic
import ProbeRecorder.Settings.Environment
import ProbeRecorder.Settings.Layer
import ProbeRecorder.Toml.Document

/-!
# `ProbeRecorder.Config.Load` — from settings to a configuration

Three sources are laid on top of each other: defaults, a file, and the environment.

## Contents
- **Defaults.** `Config.standardSettings`.
- **Reading.** `Config.ofSettings?`, section by section.
- **Loading.** `Config.load`; the names of the file and of the variables it is loaded from.
-/

namespace ProbeRecorder

/-! ## Defaults -/

/-- A value of a record as a setting; lists of defaults are empty and are left out. -/
def Setting.ofScalar? : Json → Option Setting
  | .str s => some (.text s)
  | .int n => some (.int n)
  | .bool b => some (.bool b)
  | _ => none

/-- The scalar fields of a record. -/
def Setting.ofRecord : Json → List (String × Setting)
  | .obj fields => fields.filterMap fun f => (ofScalar? f.2).map fun s => (f.1, s)
  | _ => []

namespace Config

/-- **The defaults** as settings. -/
def standardSettings : Setting :=
  match toJson {} with
  | .obj sections =>
    sections.foldl (fun root s => Setting.assignAll [(s.1, .table (Setting.ofRecord s.2))] root)
      (.table [])
  | _ => .table []

/-! ## Reading -/

/-- The fields of a section in the order of their names: from a table by name, from a list by place. -/
def sectionFields? (names : List String) : Setting → Option (List (Option Setting))
  | .table fields => some (names.map fun name => fields.lookup name)
  | .list items => some (items.map some)
  | _ => none

/-- The value of a field, or the default when it is absent. -/
def fieldOr {α : Type} (fields : List (Option Setting)) (index : Nat) (read : Setting → Option α)
    (standard : α) : Option α :=
  match fields[index]?.join with
  | some s => read s
  | none => some standard

def count? (s : Setting) : Option UInt64 := s.asCount?.map Nat.toUInt64

def readCapture (s : Setting) : Option CaptureConfig := do
  let f ← sectionFields? CaptureConfig.fieldNames s
  return {
    events := ← fieldOr f 0 Setting.asText? ""
    detailLevel := ← fieldOr f 1 (Setting.asChoice? DetailLevel.named) .normal }

def readRecording (s : Setting) : Option RecordingConfig := do
  let f ← sectionFields? RecordingConfig.fieldNames s
  let standard : RecordingConfig := {}
  return {
    mode := ← fieldOr f 0 (Setting.asChoice? RecordingMode.named) standard.mode
    completionTimeoutMs := ← fieldOr f 1 count? standard.completionTimeoutMs
    batchSize := ← fieldOr f 2 count? standard.batchSize
    flushIntervalMs := ← fieldOr f 3 count? standard.flushIntervalMs
    maxQueueSize := ← fieldOr f 4 count? standard.maxQueueSize
    compressionLevel :=
      ← fieldOr f 5 (Setting.asChoice? CompressionLevel.named) standard.compressionLevel }

def readStorage (s : Setting) : Option StorageConfig := do
  let f ← sectionFields? StorageConfig.fieldNames s
  let standard : StorageConfig := {}
  return {
    baseDir := ← fieldOr f 0 Setting.asText? standard.baseDir
    dbName := ← fieldOr f 1 Setting.asText? standard.dbName
    eventsDir := ← fieldOr f 2 Setting.asText? standard.eventsDir }

def readIdentity (s : Setting) : Option IdentityConfig := do
  let f ← sectionFields? IdentityConfig.fieldNames s
  let standard : IdentityConfig := {}
  return {
    capacity := ← fieldOr f 0 count? standard.capacity
    typeCacheCapacity := ← fieldOr f 1 count? standard.typeCacheCapacity }

def readExclusion (s : Setting) : Option ExclusionConfig := do
  let f ← sectionFields? ExclusionConfig.fieldNames s
  return { extraPrefixes := ← fieldOr f 0 Setting.asTexts? [] }

def readLogging (s : Setting) : Option LoggingConfig := do
  let f ← sectionFields? LoggingConfig.fieldNames s
  let standard : LoggingConfig := {}
  return {
    level := ← fieldOr f 0 Setting.asText? standard.level
    format := ← fieldOr f 1 (Setting.asChoice? LogFormat.named) standard.format }

/-- **Reads a configuration.** Keys that it does not know are ignored. -/
def ofSettings? (root : Setting) : Option Config := do
  let f ← sectionFields? sectionNames root
  return {
    capture := ← fieldOr f 0 readCapture {}
    recording := ← fieldOr f 1 readRecording {}
    storage := ← fieldOr f 2 readStorage {}
    identity := ← fieldOr f 3 readIdentity {}
    exclusion := ← fieldOr f 4 readExclusion {}
    logging := ← fieldOr f 5 readLogging {} }

/-! ## Loading -/

/-- The file that is read when no other is named. -/
def standardFile : String := "probelog.toml"

/-- The variable that names another file. -/
def fileVariable : String := "PROBELOG_CONFIG"

/-- The variable that holds the disable switch. -/
def switchVariable : String := "PROBELOG_DISABLE"

/-- A path without the slashes and points at its end. -/
def bareName (name : String) : String :=
  "/".intercalate ((name.splitOn "/").reverse.dropWhile fun part => part = "" ∨ part = ".").reverse

/-- **The names of the file**, in the order in which they are tried. -/
def fileNames (environment : List (String × String)) : List String :=
  let name := (environment.lookup fileVariable).getD standardFile
  [name, bareName name ++ ".toml"]

/-- The fields of each section. -/
def fieldNames : List (String × List String) :=
  [("capture", CaptureConfig.fieldNames), ("recording", RecordingConfig.fieldNames),
   ("storage", StorageConfig.fieldNames), ("identity", IdentityConfig.fieldNames),
   ("exclusion", ExclusionConfig.fieldNames), ("logging", LoggingConfig.fieldNames)]

/-- The variables that mean anything, in upper case. -/
def variableNames : List String :=
  fileVariable :: switchVariable :: fieldNames.flatMap fun s => s.2.map fun f =>
    String.ofList (("probelog__" ++ s.1 ++ "__" ++ f).toList.map Char.toUpper)

/-- The settings of a file, given its name and its content. -/
def fileSource (name : String) (content : String) : Except RecorderError (List (String × Setting)) :=
  match Toml.read content.toList with
  | .ok fields => .ok fields
  | .error fault => .error (configError (fault.report content.toList ++ " in " ++ name))

/-- **Loads a configuration** from a file, if there is one, and from environment variables. -/
def load (file : Option (String × String)) (environment : List (String × String)) :
    Except RecorderError Config := do
  let fileSettings ← match file with
    | some (name, content) => fileSource name content
    | none => pure []
  let settings := (standardSettings.layer fileSettings).layer (Environment.source environment)
  match ofSettings? settings with
  | none => throw (configError "a setting does not have the form that is wanted")
  | some c =>
    c.validate
    return c

end Config
end ProbeRecorder
