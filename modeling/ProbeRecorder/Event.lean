import ProbeRecorder.Json.Printer
import ProbeRecorder.Probe
import ProbeRecorder.Text.Utf8

/-!
# `ProbeRecorder.Event` — what stands in the log

## Contents
- **Events.** `Event`, made by `Event.ordinary` and `Event.anchor`; `Stamp`, the time and thread.
- **Anchors.** `bigEndian`, `ofBigEndian?` and `Event.correlation?`.
- **Entries.** `Entry`, an event or the registration of a class.
- **Records.** Records of both, and lists of entries.
-/

namespace ProbeRecorder

/-- **When and where** an event is written: a clock reading in nanoseconds, and the thread. -/
structure Stamp where
  nanoseconds : UInt64
  thread : String
  deriving DecidableEq, Repr

/-- **One event.** -/
structure Event where
  probe : ProbeId
  /-- An object's identity, an encoded scalar or, in completions, a correlation id. -/
  value : Int64
  /-- A serialized value or, in anchors, the bytes of the correlation id. -/
  payload : Option Bytes
  timestamp : UInt64
  thread : String
  /-- The event starts an asynchronous call. -/
  isAnchor : Bool
  deriving DecidableEq, Repr

/-! ## Anchors -/

/-- The byte of a 64-bit value at a distance of `place` bytes from its last one. -/
def byteAt (n : UInt64) (place : Nat) : UInt8 := (n.toNat / Nat.pow 256 place).toUInt8

/-- **The eight bytes** of a 64-bit value, most significant first. -/
def bigEndian (n : Int64) : Bytes := [7, 6, 5, 4, 3, 2, 1, 0].map (byteAt n.toUInt64)

/-- The value of exactly eight bytes. -/
def ofBigEndian? (bytes : Bytes) : Option Int64 :=
  if bytes.length = 8 then
    some (bytes.foldl (fun (n : Nat) (b : UInt8) => 256 * n + b.toNat) 0).toUInt64.toInt64
  else none

namespace Event

/-- An event as it is written now. -/
def ordinary (stamp : Stamp) (probe : ProbeId) (value : Int64) (payload : Option Bytes) : Event :=
  ⟨probe, value, payload, stamp.nanoseconds, stamp.thread, false⟩

/-- **The anchor** of an asynchronous call: the producer's identity, and its correlation id as
    payload. -/
def anchor (stamp : Stamp) (probe : ProbeId) (object : ObjectId) (correlation : Int64) : Event :=
  { ordinary stamp probe object (some (bigEndian correlation)) with isAnchor := true }

/-- **The correlation id** that an anchor carries. -/
def correlation? (e : Event) : Option Int64 :=
  if e.isAnchor then e.payload.bind ofBigEndian? else none

/-- The payload as a JSON value, if it is one. -/
def payloadJson? (e : Event) : Option Json := do
  Json.parse? (← Text.ofUtf8? (← e.payload)).toList

/-! ## Records -/

def fieldNames : List String :=
  ["probe_id", "value", "payload", "timestamp_ns", "thread", "is_anchor"]

/-- The fields of the record: an absent payload and an unset anchor flag are left out. -/
def jsonFields (e : Event) : List (String × Json) :=
  [("probe_id", .int e.probe.toInt), ("value", .int e.value.toInt)]
    ++ (match e.payload with | some bytes => [("payload", Json.ofBytes bytes)] | none => [])
    ++ [("timestamp_ns", .int e.timestamp.toNat), ("thread", .str e.thread)]
    ++ (if e.isAnchor then [("is_anchor", .bool true)] else [])

def toJson (e : Event) : Json := .obj e.jsonFields

def decoder : Json.Decoder Event := fun depth t => do
  let f ← Json.Decoder.record fieldNames depth t
  return {
    probe := ← f.required 0 .int32
    value := ← f.required 1 .int64
    payload := ← f.orElse 2 (.optional (.list .uint8)) none
    timestamp := ← f.required 3 .uint64
    thread := ← f.required 4 .string
    isAnchor := ← f.orElse 5 .bool false }

end Event

/-! ## Entries -/

/-- **Log entries.** -/
inductive Entry where
  | event (e : Event)
  /-- The probes of a class were registered. -/
  | weave (classId : ClassId) (probes : List ProbeId)
  deriving DecidableEq, Repr

namespace Entry

def asEvent? : Entry → Option Event
  | .event e => some e
  | .weave _ _ => none

def asWeave? : Entry → Option (ClassId × List ProbeId)
  | .event _ => none
  | .weave classId probes => some (classId, probes)

def idsJson (ids : List ProbeId) : Json := .arr (ids.map fun id => .int id.toInt)

/-- The record names the kind of entry first. -/
def toJson : Entry → Json
  | .event e => .obj (("kind", .str "event") :: e.jsonFields)
  | .weave classId probes =>
    .obj [("kind", .str "weave"), ("class_id", .int classId.toInt), ("probe_ids", idsJson probes)]

def weaveDecoder : Json.Decoder Entry := fun depth t => do
  let f ← Json.Decoder.record ["class_id", "probe_ids"] depth t
  return .weave (← f.required 0 .int32) (← f.required 1 (.list .int32))

/-- Decoders of the rest of the record, by kind. -/
def kinds : List (String × Json.Decoder Entry) :=
  [("event", fun depth t => (Event.decoder depth t).map .event), ("weave", weaveDecoder)]

/-- The kind named by a tree, which must be a plain string. -/
def kindDecoder : Json.Decoder (Json.Decoder Entry) := fun depth t => do
  kinds.lookup (← Json.Decoder.string depth t)

/-- **Reads an entry.** The kind may stand anywhere in an object, but only once; in an array it comes
    first. Everything in the record must make sense, also what it does not know. -/
def decoder : Json.Decoder Entry := fun depth t => do
  let _ ← t.toJson? depth
  match t with
  | .object fields =>
    let named (field : List Json.TextItem × Json.Tree) : Bool :=
      (Json.decodeItems? field.1).map String.ofList == some "kind"
    match fields.filter named with
    | [kind] => (← kindDecoder depth kind.2) depth (.object (fields.filter fun f => !named f))
    | _ => none
  | .array (kind :: rest) => (← kindDecoder depth kind) depth (.array rest)
  | _ => none

end Entry

/-- The events of a log, in order. -/
def eventsOf (log : List Entry) : List Event := log.filterMap Entry.asEvent?

/-- The registrations of a log, in order. -/
def weavesOf (log : List Entry) : List (ClassId × List ProbeId) := log.filterMap Entry.asWeave?

end ProbeRecorder
