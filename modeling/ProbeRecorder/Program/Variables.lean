import ProbeRecorder.Subject.Completion

/-!
# `ProbeRecorder.Program.Variables` — what the observed program holds

The program holds values under names. Several names may hold one value; it lives until the last of them
lets it go.

## Contents
- **Values.** `HeldValue` and its kinds; `current`, `resolve?`.
- **Variables.** `Variables`; `allocate`, `forget`, `create`, `alias`, `drop`.
- **Reading.** `held?`, `subject?`, `nameOf?`.
-/

namespace ProbeRecorder

/-! ## Values -/

/-- **A value of the program.** All its names share what a completion was resolved with. -/
structure HeldValue where
  typeName : String
  shape : Shape
  script : Script
  /-- A completion that the program resolves; its content decides what serializing the value does. -/
  completion : Option Completion := none
  /-- The value awaits a result that never comes. -/
  isStuck : Bool := false

namespace HeldValue

/-- A value that is serialized as `v`. -/
def plain (typeName : String) (v : Json) : HeldValue :=
  { typeName := typeName, shape := .plain, script := .done (.value v) }

/-- Bytes; their structure is an array of numbers. -/
def ofBytes (typeName : String) (content : Bytes) : HeldValue :=
  { typeName := typeName, shape := .bytes content, script := .done (.value (Json.ofBytes content)) }

/-- A type, which has no structure but its name. -/
def typeLiteral (typeName literal : String) : HeldValue :=
  { typeName := typeName, shape := .typeLiteral, script := .done (.value (.str literal)) }

/-- A sequence that is consumed by reading it. -/
def lazySequence (typeName : String) : HeldValue :=
  { typeName := typeName, shape := .lazySequence
    script := .done (.error ⟨.serialization, "lazy sequences are not serialized"⟩) }

/-- A completion that is not resolved yet. -/
def unresolved (typeName : String) : HeldValue :=
  { typeName := typeName, shape := .completion, script := .done .unresolved
    completion := some .unresolved }

/-- What serializing the value does now. -/
def current (v : HeldValue) : Script :=
  match v.completion with
  | some c => c.script
  | none => if v.isStuck then .done .unresolved else v.script

/-- Resolves a value that is a completion; says whether it took effect. -/
def resolve? (v : HeldValue) (r : Resolution) : Option (Bool × HeldValue) :=
  v.completion.map fun c =>
    let (took, c) := c.resolve r
    (took, { v with completion := some c })

end HeldValue

/-! ## Variables -/

/-- **Variables**: the values in memory, and the names that hold them. -/
structure Variables where
  heap : Heap := .empty
  objects : FiniteMap Allocation HeldValue := .empty
  names : FiniteMap String Allocation := .empty

namespace Variables

/-- A new value that no name holds yet; every value gets an address of its own. -/
def allocate (vs : Variables) (v : HeldValue) : Allocation × Variables :=
  let (a, heap) := vs.heap.allocate vs.heap.nextSerial
  (a, { vs with heap := heap, objects := vs.objects.put a v })

/-- One holder lets a value go. -/
def forget (vs : Variables) (a : Allocation) : Variables :=
  let heap := vs.heap.release a
  { vs with heap := heap, objects := if heap.isLive a then vs.objects else vs.objects.erase a }

/-- **Drops** a name; says whether it held anything. -/
def drop (vs : Variables) (name : String) : Bool × Variables :=
  match vs.names.get? name with
  | none => (false, vs)
  | some a => (true, { vs with names := vs.names.erase name }.forget a)

/-- Lets a name hold a value; what it held before is let go. -/
def bind (vs : Variables) (name : String) (a : Allocation) : Variables :=
  let vs := (vs.drop name).2
  { vs with names := vs.names.put name a }

/-- **A new value under a name.** -/
def create (vs : Variables) (name : String) (v : HeldValue) : Variables :=
  let (a, vs) := vs.allocate v
  vs.bind name a

/-- **A second name** for the value that another one holds, if it holds one. -/
def alias? (vs : Variables) (name source : String) : Option Variables :=
  (vs.names.get? source).map fun a => { vs with heap := vs.heap.retain a }.bind name a

/-- Resolves the completion under a name, if there is one. -/
def resolve? (vs : Variables) (name : String) (r : Resolution) : Option (Bool × Variables) := do
  let a ← vs.names.get? name
  let (took, v) ← (← vs.objects.get? a).resolve? r
  return (took, { vs with objects := vs.objects.put a v })

/-! ## Reading -/

/-- The value under a name, and where it lives. -/
def held? (vs : Variables) (name : String) : Option (Allocation × HeldValue) := do
  let a ← vs.names.get? name
  return (a, ← vs.objects.get? a)

/-- A living value as the recorder sees it. -/
def subject? (vs : Variables) (a : Allocation) : Option Subject :=
  (vs.objects.get? a).map fun v => .mk a v.typeName v.shape v.current

/-- The value under a name as the recorder sees it. -/
def subjectUnder? (vs : Variables) (name : String) : Option Subject :=
  (vs.names.get? name).bind vs.subject?

/-- The smallest name that holds a value. -/
def nameOf? (vs : Variables) (a : Allocation) : Option String :=
  (vs.names.bindings.filter fun b => b.2 = a).foldl (fun best b => match best with
    | none => some b.1
    | some name => some (if b.1 < name then b.1 else name)) none

end Variables
end ProbeRecorder
