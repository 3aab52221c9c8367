import ProbeRecorder.Error
import ProbeRecorder.Event
import ProbeRecorder.Timestamp

/-!
# `ProbeRecorder.Export.Format` — the log as text

## Contents
- **Formats.** `ExportFormat` and its names.
- **Payloads.** `renderPayload`, what a payload is shown as.
- **Texts.** `ExportFormat.render` for any records, `exportEvents` for events.
-/

namespace ProbeRecorder

/-- **Export formats.** -/
inductive ExportFormat where
  /-- One indented array. -/
  | json
  /-- One record a line. -/
  | jsonLines
  deriving DecidableEq, Repr

namespace ExportFormat

/-- Formats by name. -/
def named : List (String × ExportFormat) :=
  [("json", json), ("jsonl", jsonLines), ("json-lines", jsonLines), ("ndjson", jsonLines)]

/-- ASCII letters in lower case. -/
def lowered (name : String) : String := String.ofList (name.toList.map Char.toLower)

/-- **The format of a name**, whatever the case of its letters. -/
def ofName (name : String) : Except RecorderError ExportFormat :=
  match named.lookup (lowered name) with
  | some format => .ok format
  | none => .error ⟨.exporting, "Unknown export format '" ++ lowered name ++ "'"⟩

/-- A record on a line of its own. -/
def line (record : Json) : List Char := record.render ++ ['\n']

/-- **The text of a list of records.** -/
def render (format : ExportFormat) (records : List Json) : List Char :=
  match format with
  | .json => Json.renderPretty 0 (.arr records)
  | .jsonLines => records.flatMap line

end ExportFormat

/-- **A payload as shown**: JSON as the value it denotes, other text as a string, and other bytes as an
    array. -/
def renderPayload (bytes : Bytes) : Json :=
  match Text.ofUtf8? bytes with
  | none => Json.ofBytes bytes
  | some text => (Json.parse? text.toList).getD (.str text)

/-- An event as exported. -/
def Event.exportJson (e : Event) : Json :=
  .obj ([("probe_id", .int e.probe.toInt), ("value", .int e.value.toInt)]
    ++ (match e.payload with | some bytes => [("payload", renderPayload bytes)] | none => [])
    ++ [("timestamp", .str (String.ofList (Timestamp.render e.timestamp))),
        ("thread", .str e.thread)])

/-- **Exports events.** -/
def exportEvents (format : ExportFormat) (events : List Event) : List Char :=
  format.render (events.map Event.exportJson)

end ProbeRecorder
