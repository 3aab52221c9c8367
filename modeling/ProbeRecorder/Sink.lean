import ProbeRecorder.Error
import ProbeRecorder.Event

/-!
# `ProbeRecorder.Sink` — where entries go

A sink appends what it is given, in order, or refuses it; what was refused is not tried again.

## Contents
- **Sinks.** `Sink`, a log and what is refused; `SinkCall`.
- **Calls.** `Sink.append`, `Sink.register`.
- **Views.** `events`, `eventsFor`, `batches`, `clear`.
-/

namespace ProbeRecorder

/-- The three calls of a sink. -/
inductive SinkCall where
  | append
  | anchor
  | register
  deriving DecidableEq, Repr

/-- **Sink.** -/
structure Sink where
  log : List Entry
  /-- The error with which a call is refused, if it is. -/
  refusal : SinkCall → Option RecorderError

namespace Sink

/-- An empty sink that accepts everything. -/
def empty : Sink := ⟨[], fun _ => none⟩

/-- Puts an entry at the end of the log, unless the call is refused. -/
def accept (s : Sink) (call : SinkCall) (e : Entry) : Except RecorderError Unit × Sink :=
  match s.refusal call with
  | some error => (.error error, s)
  | none => (.ok (), { s with log := s.log ++ [e] })

/-- The call that brings an event to the sink. -/
def callFor (e : Event) : SinkCall := if e.isAnchor then .anchor else .append

/-- **Appends an event.** -/
def append (s : Sink) (e : Event) : Except RecorderError Unit × Sink := s.accept (callFor e) (.event e)

/-- **Notes the probes of a class.** -/
def register (s : Sink) (classId : ClassId) (probes : List ProbeId) : Except RecorderError Unit × Sink :=
  s.accept .register (.weave classId probes)

/-- The events, in order. -/
def events (s : Sink) : List Event := eventsOf s.log

/-- The events of one probe. -/
def eventsFor (s : Sink) (probe : ProbeId) : List Event := s.events.filter fun e => e.probe = probe

/-- The registrations, in order. -/
def batches (s : Sink) : List (ClassId × List ProbeId) := weavesOf s.log

/-- Forgets the events and keeps the registrations. -/
def clear (s : Sink) : Sink :=
  { s with log := s.log.filter fun e => e.asWeave?.isSome }

end Sink
end ProbeRecorder
