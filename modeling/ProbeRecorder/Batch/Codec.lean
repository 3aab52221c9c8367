import ProbeRecorder.Batch.Frame
import ProbeRecorder.Error
import ProbeRecorder.Event

/-!
# `ProbeRecorder.Batch.Codec` — stored batches

A batch is a JSON array of log entries, compressed. How bytes are compressed is left open: a log works with any
`Compression`, and with frames where none is given.

## Contents
- **Levels.** `CompressionLevel`.
- **Compressions.** `Compression`.
- **Batches.** `Batch.text`; `Compression.encode`, `Compression.read`.
- **Frames.** `Compression.frames`; `Batch.encode`, `Batch.decode`.
-/

namespace ProbeRecorder

/-- **Compression levels.** The fast one is the writer's own, since it works on every flush. -/
inductive CompressionLevel where
  | fast
  | balanced
  | best
  deriving DecidableEq, Repr

namespace CompressionLevel

/-- Levels by name. -/
def named : List (String × CompressionLevel) :=
  [("fast", fast), ("balanced", balanced), ("best", best)]

/-- The name in records. -/
def name : CompressionLevel → String
  | fast => "fast"
  | balanced => "balanced"
  | best => "best"

/-- The number of the level in the format's own scale. -/
def number : CompressionLevel → Nat
  | fast => 1
  | balanced => 3
  | best => 19

end CompressionLevel

/-! ## Compressions -/

/-- **A way to compress bytes**, given the number of a level, and to decompress them. Either may fail. -/
class Compression where
  pack : (level : Nat) → Bytes → Except RecorderError Bytes
  unpack : Bytes → Except RecorderError Bytes

/-! ## Batches -/

namespace Batch

/-- The record of a batch. -/
def text (entries : List Entry) : String := (Json.arr (entries.map Entry.toJson)).compact

/-- The entries of a record. -/
def ofText? (content : Bytes) : Option (List Entry) := do
  (Json.Decoder.list Entry.decoder).run? (← Text.ofUtf8? content).toList

end Batch

namespace Compression

/-- **Stores a batch.** -/
def encode (c : Compression) (level : CompressionLevel) (entries : List Entry) : Except RecorderError Bytes :=
  c.pack level.number (Text.utf8 (Batch.text entries))

/-- **Reads a batch back.** -/
def read (c : Compression) (stored : Bytes) : Except RecorderError (List Entry) := do
  match Batch.ofText? (← c.unpack stored) with
  | some entries => return entries
  | none => throw ⟨.storage, "Corrupt batch"⟩

end Compression

/-! ## Frames -/

namespace Batch

/-- Compresses bytes into a frame. The level chooses among forms that all read back alike; here there is one. -/
def compress (_level : CompressionLevel) (content : Bytes) : Bytes := Frame.encode content

/-- Bytes that are no frames cannot be decompressed; nor can frames with blocks that need entropy coding. -/
def decompress (stored : Bytes) : Except RecorderError Bytes :=
  match Frame.decode? stored with
  | some content => .ok content
  | none => .error ⟨.compression, "Decompression error"⟩

end Batch

/-- **Frames** are the compression in use where no other is given. -/
instance Compression.frames : Compression where
  pack _ content := .ok (Frame.encode content)
  unpack := Batch.decompress

namespace Batch

/-- Stores a batch in a frame. -/
def encode (level : CompressionLevel) (entries : List Entry) : Bytes :=
  compress level (Text.utf8 (text entries))

/-- Reads a batch in a frame. -/
def decode (stored : Bytes) : Except RecorderError (List Entry) := Compression.frames.read stored

end Batch
end ProbeRecorder
