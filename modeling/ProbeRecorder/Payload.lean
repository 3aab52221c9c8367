import ProbeRecorder.Error
import ProbeRecorder.Json.Printer
import ProbeRecorder.Text.Utf8

/-!
# `ProbeRecorder.Payload` — what events carry

## Contents
- **Codecs.** `Codec`, how structured values become bytes; `Codec.json`.
- **Diagnostics.** `Payload.unavailable`, `Payload.failure`, `Payload.asyncError`.
-/

namespace ProbeRecorder

/-- **Codecs** turn structured values into payload bytes, or refuse them. -/
structure Codec where
  name : String
  encode : Json → Except RecorderError Bytes

namespace Payload

/-- A value as compact JSON in UTF-8. -/
def ofJson (v : Json) : Bytes := Text.utf8 v.compact

/-- **A diagnostic**: what went wrong, and a message. -/
def diagnostic (error message : String) : Bytes :=
  ofJson (.obj [("error", .str error), ("message", .str message)])

/-- Written when a bounded wait ended without a result. -/
def unavailable : Bytes := ofJson (.obj [("error", .str "value unavailable")])

/-- Written when a value could not be serialized. -/
def failure (message : String) : Bytes := diagnostic "failed to serialize object" message

/-- Written when an asynchronous call ended with an error of the given type. -/
def asyncError (typeName message : String) : Bytes := diagnostic typeName message

end Payload

/-- **The JSON codec** refuses nothing. -/
def Codec.json : Codec := ⟨"json", fun v => .ok (Payload.ofJson v)⟩

end ProbeRecorder
