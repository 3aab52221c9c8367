import ProbeRecorder.Recorder.Completions

/-!
# `ProbeRecorder.Recorder.Producer` — futures and streams under observation

A producer yields what it would yield unobserved. If its call was opened, every outcome is also written
under that call: one for a future, and one for each item of a stream up to its end.

## Contents
- **Readiness.** `Readiness`, what a producer answers when it is polled.
- **Producers.** `Producer`, with the answers still to come; `size` bounds for streams.
- **Polling.** `Producer.advance`, one answer passed on; `Producer.poll`.
-/

namespace ProbeRecorder

/-- **Answer of a producer** that is polled. -/
inductive Readiness where
  | pending
  | ended
  | ready (outcome : CallOutcome)

inductive ProducerKind where
  /-- A future: one outcome. -/
  | single
  /-- A stream: any number of items, and an end. -/
  | many
  deriving DecidableEq, Repr

/-- **Producer.** -/
structure Producer where
  kind : ProducerKind
  /-- The coming answers. -/
  answers : List Readiness
  /-- The answer when none are left. -/
  exhausted : Readiness
  /-- By how much the upper bound on the items left exceeds the lower one. -/
  slack : Nat
  /-- The call that outcomes are written under. -/
  call : Option OpenCall
  /-- A future gave its outcome; it must not be polled again. -/
  resolved : Bool

/-- What the caller of `Producer.poll` sees. -/
inductive Polled where
  | pending
  | ended
  | ready (outcome : CallOutcome)
  /-- The future was polled after its outcome. -/
  | finished

namespace Producer

/-- A producer whose call was opened, or was not. -/
def observed (kind : ProducerKind) (answers : List Readiness) (exhausted : Readiness) (slack : Nat)
    (call : Option OpenCall) : Producer :=
  ⟨kind, answers, exhausted, slack, call, false⟩

/-- The next answer, and the producer after it was given. -/
def next (p : Producer) : Readiness × Producer :=
  match p.answers with
  | [] => (p.exhausted, p)
  | a :: rest => (a, { p with answers := rest })

/-- Bounds on the number of items left. -/
def bounds (p : Producer) : Nat × Nat := (p.answers.length, p.answers.length + p.slack)

/-- Writes an outcome if there is a call to write it under. -/
def report (p : Producer) (m : Moment) (outcome : CallOutcome) (r : Recorder) : Recorder :=
  match p.call with
  | some call => r.writeCompletion m call outcome
  | none => r

/-- A future that gave its outcome; nothing is written under its call any more. -/
def resolve (p : Producer) : Producer := { p with call := none, resolved := true }

/-- **Passes on the next answer.** What a future answers after its outcome, and a stream after its end, is
    passed on too; nothing is written about it. -/
def advance (p : Producer) (m : Moment) (r : Recorder) : Polled × Producer × Recorder :=
  match p.next, p.kind with
  | (.pending, p), _ => (.pending, p, r)
  | (.ended, p), .single => (.pending, p, r)
  | (.ended, p), .many => (.ended, { p with call := none }, r)
  | (.ready outcome, p), .single => (.ready outcome, p.resolve, p.report m outcome r)
  | (.ready outcome, p), .many => (.ready outcome, p, p.report m outcome r)

/-- **Polls a producer.** A future that gave its outcome is not asked again. -/
def poll (p : Producer) (m : Moment) (r : Recorder) : Polled × Producer × Recorder :=
  if p.resolved then (.finished, p, r) else p.advance m r

end Producer
end ProbeRecorder
