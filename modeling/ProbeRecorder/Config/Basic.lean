import ProbeRecorder.Batch.Codec
import ProbeRecorder.Json.Decoder
import ProbeRecorder.Json.Printer
import ProbeRecorder.Policy.Capture
import ProbeRecorder.Policy.Mode

/-!
# `ProbeRecorder.Config.Basic` — configuration

## Contents
- **Sections.** `CaptureConfig`, `RecordingConfig`, `StorageConfig`, `IdentityConfig`, `ExclusionConfig`,
  `LoggingConfig`; what is not configured has a default.
- **Configuration.** `Config`; `validate`, `capturePolicy`, `applySwitch`.
- **Records.** `Config.toJson`, `Config.decoder`.
-/

namespace ProbeRecorder

/-! ## Sections -/

/-- Which events are captured. -/
structure CaptureConfig where
  events : String := ""
  detailLevel : DetailLevel := .normal
  deriving DecidableEq, Repr

/-- What happens to each observation. -/
structure RecordingConfig where
  mode : RecordingMode := .detailed
  completionTimeoutMs : UInt64 := 100
  batchSize : UInt64 := 1000
  flushIntervalMs : UInt64 := 100
  maxQueueSize : UInt64 := 1000000
  compressionLevel : CompressionLevel := .fast
  deriving DecidableEq, Repr

/-- Where the log is stored. -/
structure StorageConfig where
  baseDir : String := ".probelog"
  dbName : String := "events.db"
  eventsDir : String := "events"
  deriving DecidableEq, Repr

/-- How many identities and type names are remembered. -/
structure IdentityConfig where
  capacity : UInt64 := 65536
  typeCacheCapacity : UInt64 := 1024
  deriving DecidableEq, Repr

/-- Types that are never serialized, besides the built-in ones. -/
structure ExclusionConfig where
  extraPrefixes : List String := []
  deriving DecidableEq, Repr

inductive LogFormat where
  | pretty
  | json
  deriving DecidableEq, Repr

namespace LogFormat

def named : List (String × LogFormat) := [("pretty", pretty), ("json", json)]

def name : LogFormat → String
  | pretty => "pretty"
  | json => "json"

end LogFormat

/-- What the recorder says about itself. -/
structure LoggingConfig where
  level : String := "info"
  format : LogFormat := .pretty
  deriving DecidableEq, Repr

/-! ## Configuration -/

/-- **Configuration.** -/
structure Config where
  capture : CaptureConfig := {}
  recording : RecordingConfig := {}
  storage : StorageConfig := {}
  identity : IdentityConfig := {}
  exclusion : ExclusionConfig := {}
  logging : LoggingConfig := {}
  deriving DecidableEq, Repr

namespace Config

def configError (detail : String) : RecorderError := ⟨.configuration, detail⟩

def mustBePositive (what : String) : RecorderError := configError (what ++ " must be positive")

/-- **Validates**: sizes, capacities and the flush interval are positive. The first fault counts. -/
def validate (c : Config) : Except RecorderError Unit :=
  if c.recording.batchSize = 0 then .error (mustBePositive "recording.batch_size")
  else if c.recording.maxQueueSize = 0 then .error (mustBePositive "recording.max_queue_size")
  else if c.recording.flushIntervalMs = 0 then .error (mustBePositive "recording.flush_interval_ms")
  else if c.identity.capacity = 0 ∨ c.identity.typeCacheCapacity = 0 then
    .error (mustBePositive "identity capacities")
  else .ok ()

/-- The capture policy that is configured. -/
def capturePolicy (c : Config) : Except RecorderError CapturePolicy :=
  CapturePolicy.configured c.capture.events c.capture.detailLevel

/-- A switch is on when it reads `true` or `1`, whatever the case and the white space around it. -/
def isOn (switch : String) : Bool :=
  let text := (Text.trim switch.toList).map Char.toLower
  text = ['t', 'r', 'u', 'e'] || text = ['1']

/-- **Applies the disable switch**: recording is discarded while it is on. -/
def applySwitch (c : Config) (switch : Option String) : Config :=
  if switch.any isOn then { c with recording := { c.recording with mode := .discard } } else c

end Config

/-! ## Records -/

namespace CaptureConfig

def fieldNames : List String := ["events", "detail_level"]

def toJson (c : CaptureConfig) : Json :=
  .obj [("events", .str c.events), ("detail_level", .str c.detailLevel.name)]

def decoder : Json.Decoder CaptureConfig := fun depth t => do
  let f ← Json.Decoder.record fieldNames depth t
  return {
    events := ← f.orElse 0 .string ""
    detailLevel := ← f.orElse 1 (.choice DetailLevel.named) .normal }

end CaptureConfig

/-- A count in a record. -/
def countJson (n : UInt64) : Json := .int n.toNat

namespace RecordingConfig

def fieldNames : List String :=
  ["mode", "completion_timeout_ms", "batch_size", "flush_interval_ms", "max_queue_size",
   "compression_level"]

def toJson (c : RecordingConfig) : Json :=
  .obj [("mode", .str c.mode.name), ("completion_timeout_ms", countJson c.completionTimeoutMs),
    ("batch_size", countJson c.batchSize), ("flush_interval_ms", countJson c.flushIntervalMs),
    ("max_queue_size", countJson c.maxQueueSize),
    ("compression_level", .str c.compressionLevel.name)]

def decoder : Json.Decoder RecordingConfig := fun depth t => do
  let f ← Json.Decoder.record fieldNames depth t
  let standard : RecordingConfig := {}
  return {
    mode := ← f.orElse 0 (.choice RecordingMode.named) standard.mode
    completionTimeoutMs := ← f.orElse 1 .uint64 standard.completionTimeoutMs
    batchSize := ← f.orElse 2 .uint64 standard.batchSize
    flushIntervalMs := ← f.orElse 3 .uint64 standard.flushIntervalMs
    maxQueueSize := ← f.orElse 4 .uint64 standard.maxQueueSize
    compressionLevel := ← f.orElse 5 (.choice CompressionLevel.named) standard.compressionLevel }

end RecordingConfig

namespace StorageConfig

def fieldNames : List String := ["base_dir", "db_name", "events_dir"]

def toJson (c : StorageConfig) : Json :=
  .obj [("base_dir", .str c.baseDir), ("db_name", .str c.dbName), ("events_dir", .str c.eventsDir)]

def decoder : Json.Decoder StorageConfig := fun depth t => do
  let f ← Json.Decoder.record fieldNames depth t
  let standard : StorageConfig := {}
  return {
    baseDir := ← f.orElse 0 .string standard.baseDir
    dbName := ← f.orElse 1 .string standard.dbName
    eventsDir := ← f.orElse 2 .string standard.eventsDir }

end StorageConfig

namespace IdentityConfig

def fieldNames : List String := ["capacity", "type_cache_capacity"]

def toJson (c : IdentityConfig) : Json :=
  .obj [("capacity", countJson c.capacity), ("type_cache_capacity", countJson c.typeCacheCapacity)]

def decoder : Json.Decoder IdentityConfig := fun depth t => do
  let f ← Json.Decoder.record fieldNames depth t
  let standard : IdentityConfig := {}
  return {
    capacity := ← f.orElse 0 .uint64 standard.capacity
    typeCacheCapacity := ← f.orElse 1 .uint64 standard.typeCacheCapacity }

end IdentityConfig

namespace ExclusionConfig

def fieldNames : List String := ["extra_prefixes"]

def toJson (c : ExclusionConfig) : Json :=
  .obj [("extra_prefixes", .arr (c.extraPrefixes.map .str))]

def decoder : Json.Decoder ExclusionConfig := fun depth t => do
  let f ← Json.Decoder.record fieldNames depth t
  return { extraPrefixes := ← f.orElse 0 (.list .string) [] }

end ExclusionConfig

namespace LoggingConfig

def fieldNames : List String := ["level", "format"]

def toJson (c : LoggingConfig) : Json :=
  .obj [("level", .str c.level), ("format", .str c.format.name)]

def decoder : Json.Decoder LoggingConfig := fun depth t => do
  let f ← Json.Decoder.record fieldNames depth t
  let standard : LoggingConfig := {}
  return {
    level := ← f.orElse 0 .string standard.level
    format := ← f.orElse 1 (.choice LogFormat.named) standard.format }

end LoggingConfig

namespace Config

def sectionNames : List String :=
  ["capture", "recording", "storage", "identity", "exclusion", "logging"]

def toJson (c : Config) : Json :=
  .obj [("capture", c.capture.toJson), ("recording", c.recording.toJson),
    ("storage", c.storage.toJson), ("identity", c.identity.toJson),
    ("exclusion", c.exclusion.toJson), ("logging", c.logging.toJson)]

/-- Sections and fields that are left out have their defaults. -/
def decoder : Json.Decoder Config := fun depth t => do
  let f ← Json.Decoder.record sectionNames depth t
  return {
    capture := ← f.orElse 0 CaptureConfig.decoder {}
    recording := ← f.orElse 1 RecordingConfig.decoder {}
    storage := ← f.orElse 2 StorageConfig.decoder {}
    identity := ← f.orElse 3 IdentityConfig.decoder {}
    exclusion := ← f.orElse 4 ExclusionConfig.decoder {}
    logging := ← f.orElse 5 LoggingConfig.decoder {} }

end Config
end ProbeRecorder
