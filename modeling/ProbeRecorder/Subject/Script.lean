import ProbeRecorder.Identity.Heap
import ProbeRecorder.Payload
import ProbeRecorder.Scalar

/-!
# `ProbeRecorder.Subject.Script` — observed values and what serializing them does

Serializing a value runs code of the observed program. That code may itself be instrumented, may fail, and
may panic; a script says which of these it does, and in which order.

## Contents
- **Outcomes.** `Outcome`, how serialization ends, and `Outcome.structure`.
- **Subjects.** `Subject`, an observed value; its `Shape`; `Script` and the `NestedCall`s in it.
-/

namespace ProbeRecorder

/-! ## Outcomes -/

/-- **How serialization ends.** -/
inductive Outcome where
  | value (v : Json)
  | error (e : RecorderError)
  /-- A panic, with its message if it carries text. -/
  | panic (message : Option String)
  /-- A completion that has no result yet. -/
  | unresolved

/-- The error a contained panic becomes. -/
def panicError (message : Option String) : RecorderError :=
  ⟨.serialization, "panicked: " ++ message.getD "non-string panic payload"⟩

/-- The error of asking an unresolved completion for its value. -/
def unresolvedError : RecorderError := ⟨.serialization, "completion not resolved"⟩

/-- **The structure that serialization led to**; a panic becomes an error. -/
def Outcome.structure : Outcome → Except RecorderError Json
  | .value v => .ok v
  | .error e => .error e
  | .panic message => .error (panicError message)
  | .unresolved => .error unresolvedError

/-! ## Subjects -/

/-- **How a value is serialized.** -/
inductive Shape where
  | plain
  /-- Encoded already; written as it is. -/
  | bytes (content : Bytes)
  /-- A type, not a value. -/
  | typeLiteral
  /-- Serializing it would consume it. -/
  | lazySequence
  /-- A result that may not be there yet. -/
  | completion
  deriving DecidableEq, Repr

namespace Shape

/-- Values of these shapes are never serialized. -/
def isOpaque : Shape → Bool
  | .typeLiteral | .lazySequence => true
  | _ => false

/-- The name in records. -/
def name : Shape → String
  | .plain => "plain"
  | .bytes _ => "bytes"
  | .typeLiteral => "type_literal"
  | .lazySequence => "lazy"
  | .completion => "completion"

end Shape

mutual

/-- **What serializing a value does**: calls of the recorder, and then an outcome. -/
inductive Script where
  | done (outcome : Outcome)
  | call (nested : NestedCall) (rest : Script)

/-- **A call of the recorder from inside serialization.** Only calls that record something are here: a script does
    not poll a wrapper, register a class, mark a probe, or ask for the latest instance of a type. -/
inductive NestedCall where
  | absent (probe : ProbeId)
  | value (probe : ProbeId) (subject : Subject)
  | scalar (probe : ProbeId) (s : Scalar)
  /-- An asynchronous producer of the named type is handed over. -/
  | producer (probe : ProbeId) (typeName : String)

/-- **An observed value.** -/
inductive Subject where
  | mk (allocation : Allocation) (typeName : String) (shape : Shape) (script : Script)

end

namespace Subject

def allocation : Subject → Allocation
  | mk a _ _ _ => a

def typeName : Subject → String
  | mk _ name _ _ => name

def shape : Subject → Shape
  | mk _ _ s _ => s

def script : Subject → Script
  | mk _ _ _ s => s

end Subject

namespace Script

/-- How the script ends, whatever it calls before. -/
def outcome : Script → Outcome
  | done o => o
  | call _ rest => rest.outcome

end Script

/-- An observed value of either kind, as shown in diagnostic text. -/
inductive Observed where
  | scalar (s : Scalar)
  | reference (typeName : Option String)

namespace Observed

def asScalar? : Observed → Option Scalar
  | .scalar s => some s
  | .reference _ => none

/-- A value is referred to. -/
def isReference : Observed → Bool
  | .reference (some _) => true
  | _ => false

def describe : Observed → List Char
  | .scalar s => "Scalar(".toList ++ s.describe ++ [')']
  | .reference (some name) => "Reference(".toList ++ Text.quoteString name.toList ++ [')']
  | .reference none => "Reference(null)".toList

end Observed
end ProbeRecorder
