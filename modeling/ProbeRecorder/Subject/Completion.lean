import ProbeRecorder.Subject.Script

/-!
# `ProbeRecorder.Subject.Completion` — results that come later

A completion is filled once, with a value or with a failure, and may be waited for.

## Contents
- **Completions.** `Completion`; `resolve`, `isDone`.
- **Reading.** `Completion.script`, which serves waiting and serialization alike.
-/

namespace ProbeRecorder

/-- What a completion was resolved with: the script of a value, or a failure's message. -/
inductive Resolution where
  | value (script : Script)
  | failure (message : String)

/-- **Completion.** -/
structure Completion where
  slot : Option Resolution

namespace Completion

def unresolved : Completion := ⟨none⟩

def isDone (c : Completion) : Bool := c.slot.isSome

/-- **Resolves** a completion, unless that was done before; says whether it took effect. -/
def resolve (c : Completion) (r : Resolution) : Bool × Completion :=
  match c.slot with
  | none => (true, ⟨some r⟩)
  | some _ => (false, c)

/-- The error that a failed completion is read as. -/
def failureError (message : String) : RecorderError :=
  ⟨.serialization, "completion failed: " ++ message⟩

/-- **What reading the completion does** now. -/
def script (c : Completion) : Script :=
  match c.slot with
  | none => .done .unresolved
  | some (.value s) => s
  | some (.failure message) => .done (.error (failureError message))

/-- **What a bounded wait gives**; nothing when the time is over first. How long it waits has no part in that:
    nobody resolves the completion meanwhile. A time so long that no clock reaches its end, which no number of
    milliseconds is, is not looked at. A panic is given as the error that the recorder contains it in. -/
def wait (c : Completion) : Option (Except RecorderError Json) :=
  match c.script.outcome with
  | .unresolved => none
  | o => some o.structure

/-- What serializing the completion gives; of a panic, again, the error that it is contained in. -/
def read (c : Completion) : Except RecorderError Json := c.script.outcome.structure

end Completion
end ProbeRecorder
