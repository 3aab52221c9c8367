/-!
# `ProbeRecorder.Error` — what can go wrong

## Contents
- **Kinds.** `ErrorKind`, the part of the recorder that failed, and the words for it.
- **Errors.** `RecorderError`, a kind and a detail; `RecorderError.message`.
-/

namespace ProbeRecorder

/-- The part of the recorder that failed. -/
inductive ErrorKind where
  | configuration
  | policy
  | serialization
  | recording
  | sink
  | storage
  | compression
  | exporting
  deriving DecidableEq, Repr

/-- How a message about this kind of failure begins. -/
def ErrorKind.label : ErrorKind → String
  | .configuration => "configuration error"
  | .policy => "invalid capture policy"
  | .serialization => "serialization failed"
  | .recording => "recording failed"
  | .sink => "sink failed"
  | .storage => "storage failed"
  | .compression => "compression failed"
  | .exporting => "export failed"

/-- **Errors.** User code reports them too, so the detail is any text. -/
structure RecorderError where
  kind : ErrorKind
  detail : String
  deriving DecidableEq, Repr

/-- The message shown to people. -/
def RecorderError.message (e : RecorderError) : String := e.kind.label ++ ": " ++ e.detail

end ProbeRecorder
