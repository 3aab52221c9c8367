/-!
# `ProbeRecorder.Policy.Mode` — what is done with observations

## Contents
- **Modes.** `RecordingMode` and its names.
-/

namespace ProbeRecorder

/-- **Recording modes.** -/
inductive RecordingMode where
  /-- Everything is accepted and nothing is kept. -/
  | discard
  /-- Identities only, never a serialized value. -/
  | identity
  /-- Identities, and serialized values where they are wanted. -/
  | detailed
  deriving DecidableEq, Repr

namespace RecordingMode

/-- Modes by name. -/
def named : List (String × RecordingMode) :=
  [("discard", discard), ("identity", identity), ("detailed", detailed)]

/-- The name in records. -/
def name : RecordingMode → String
  | discard => "discard"
  | identity => "identity"
  | detailed => "detailed"

/-- Values are serialized in this mode. -/
def serializes (m : RecordingMode) : Bool := m = .detailed

end RecordingMode
end ProbeRecorder
