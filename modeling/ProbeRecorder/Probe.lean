import ProbeRecorder.Json.Decoder
import ProbeRecorder.Policy.Category
import ProbeRecorder.Text.Blank

/-!
# `ProbeRecorder.Probe` — instrumentation points

Probes are placed and numbered before the program runs; the recorder is told about them one class at a
time.

## Contents
- **Identifiers.** `ProbeId`, `ObjectId`, `ClassId`, `nullObject`.
- **Events and values.** `EventKind` with its category, `ValueKind`.
- **Probes.** `Probe` and its attributes (`Probe.attributeValue`).
- **Batches.** `WeaveBatch`, the probes of one class.
-/

namespace ProbeRecorder

/-- Number of an instrumentation point, unique in a run. -/
abbrev ProbeId := Int32

/-- Identity of an observed value. -/
abbrev ObjectId := Int64

/-- Number of an instrumented class. -/
abbrev ClassId := Int32

/-- The identity of an absent value. -/
def nullObject : ObjectId := 0

/-! ## Events and values -/

/-- **What happened** at a probe. -/
inductive EventKind where
  | methodEntry
  | methodParam
  | methodNormalExit
  | methodExceptionalExit
  | call
  | callParam
  | callReturn
  | newObject
  | getField
  | putField
  | arrayLoad
  | arrayStore
  | newArray
  | monitorEnter
  | monitorExit
  | localLoad
  | localStore
  | lineNumber
  | label
  | catchBlock
  deriving DecidableEq, Repr

namespace EventKind

/-- Event kinds by name. -/
def named : List (String × EventKind) :=
  [("method_entry", methodEntry), ("method_param", methodParam),
   ("method_normal_exit", methodNormalExit), ("method_exceptional_exit", methodExceptionalExit),
   ("call", call), ("call_param", callParam), ("call_return", callReturn),
   ("new_object", newObject), ("get_field", getField), ("put_field", putField),
   ("array_load", arrayLoad), ("array_store", arrayStore), ("new_array", newArray),
   ("monitor_enter", monitorEnter), ("monitor_exit", monitorExit), ("local_load", localLoad),
   ("local_store", localStore), ("line_number", lineNumber), ("label", label), ("catch", catchBlock)]

/-- The name in records. -/
def name (k : EventKind) : String :=
  ((named.find? fun entry => entry.2 = k).map (·.1)).getD ""

/-- The category that switches this kind on. -/
def category : EventKind → Category
  | methodEntry | methodNormalExit | methodExceptionalExit => .exec
  | methodParam | callParam => .parameters
  | call | callReturn | newObject => .call
  | getField | putField => .field
  | arrayLoad | arrayStore | newArray => .array
  | monitorEnter | monitorExit => .sync
  | localLoad | localStore => .locals
  | lineNumber => .line
  | label | catchBlock => .label

end EventKind

/-- **Static type** of the value observed at a probe. -/
inductive ValueKind where
  | void
  | boolean
  | byte
  | char
  | short
  | integer
  | long
  | float
  | double
  | object
  deriving DecidableEq, Repr

namespace ValueKind

/-- Value kinds by name. -/
def named : List (String × ValueKind) :=
  [("void", void), ("boolean", boolean), ("byte", byte), ("char", char), ("short", short),
   ("integer", integer), ("long", long), ("float", float), ("double", double), ("object", object)]

/-- The name in records. -/
def name (k : ValueKind) : String :=
  ((named.find? fun entry => entry.2 = k).map (·.1)).getD ""

/-- The value is a reference, not a primitive. -/
def isReference (k : ValueKind) : Bool := k = .object

end ValueKind

/-! ## Probes -/

/-- **One instrumentation point.** -/
structure Probe where
  id : ProbeId
  eventKind : EventKind
  valueKind : ValueKind
  sourceLine : UInt32
  /-- Position of the instruction within its method. -/
  instructionIndex : UInt32
  /-- Pairs `key=value` with commas between them. -/
  attributes : String
  deriving DecidableEq, Repr

namespace Probe

def category (p : Probe) : Category := p.eventKind.category

/-- The text before and after the first `=`; nothing without one. -/
def splitPair (segment : List Char) : Option (List Char × List Char) :=
  if segment.contains '=' then
    some (segment.takeWhile (· != '='), (segment.dropWhile (· != '=')).drop 1)
  else none

/-- The first pair with the given key, in a list of segments. -/
def findAttribute (key : List Char) (segments : List (List Char)) : Option (List Char) :=
  ((segments.filterMap splitPair).find? fun pair => Text.trim pair.1 == key).map
    fun pair => Text.trim pair.2

/-- **The value of an attribute**: of the first pair whose key, without the white space around it, is
    `key`. -/
def attributeValue (p : Probe) (key : List Char) : Option (List Char) :=
  findAttribute key (p.attributes.toList.splitOn ',')

def fieldNames : List String :=
  ["id", "event_kind", "value_kind", "source_line", "instruction_index", "attributes"]

def toJson (p : Probe) : Json :=
  .obj [("id", .int p.id.toInt), ("event_kind", .str p.eventKind.name),
    ("value_kind", .str p.valueKind.name), ("source_line", .int p.sourceLine.toNat),
    ("instruction_index", .int p.instructionIndex.toNat), ("attributes", .str p.attributes)]

/-- Attributes may be left out. -/
def decoder : Json.Decoder Probe := fun depth t => do
  let f ← Json.Decoder.record fieldNames depth t
  return {
    id := ← f.required 0 .int32
    eventKind := ← f.required 1 (.choice EventKind.named)
    valueKind := ← f.required 2 (.choice ValueKind.named)
    sourceLine := ← f.required 3 .uint32
    instructionIndex := ← f.required 4 .uint32
    attributes := ← f.orElse 5 .string "" }

end Probe

/-! ## Batches -/

/-- **The probes of one class**, in the order in which they were placed. -/
structure WeaveBatch where
  classId : ClassId
  className : String
  probes : List Probe
  deriving DecidableEq, Repr

namespace WeaveBatch

def probeIds (b : WeaveBatch) : List ProbeId := b.probes.map Probe.id

/-- The first probe, under which the batch is known. -/
def anchor? (b : WeaveBatch) : Option ProbeId := b.probeIds.head?

def isEmpty (b : WeaveBatch) : Bool := b.probes.isEmpty

def toJson (b : WeaveBatch) : Json :=
  .obj [("class_id", .int b.classId.toInt), ("class_name", .str b.className),
    ("probes", .arr (b.probes.map Probe.toJson))]

def decoder : Json.Decoder WeaveBatch := fun depth t => do
  let f ← Json.Decoder.record ["class_id", "class_name", "probes"] depth t
  return {
    classId := ← f.required 0 .int32
    className := ← f.required 1 .string
    probes := ← f.required 2 (.list Probe.decoder) }

end WeaveBatch
end ProbeRecorder
