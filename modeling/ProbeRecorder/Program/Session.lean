import ProbeRecorder.Program.Variables
import ProbeRecorder.Recorder.Producer
import ProbeRecorder.Recorder.Registration

/-!
# `ProbeRecorder.Program.Session` — a program and the recorder that observes it

A session carries out the steps of an observed program of one thread: it makes and drops values, hands them to
the recorder, awaits producers, and suppresses recording for a while.

## Contents
- **Session.** `Session`, with the variables, producers and guards of the program.
- **Values.** `record`, `recordTemporary`, `recordScalar`, `latestName`.
- **Producers.** `launch`, `poll`.
- **Guards.** `suppress`, and `drop`, which lets go whatever a name stands for.
-/

namespace ProbeRecorder

/-! ## Session -/

/-- **Session.** One name may stand for a value, a producer and a guard at once. -/
structure Session where
  recorder : Recorder
  vars : Variables := {}
  producers : FiniteMap String Producer := .empty
  /-- What each open guard gives back when it is released. -/
  guards : FiniteMap String Bool := .empty
  stamp : Stamp
  reading : Int64

namespace Session

/-- The outside world during a step. -/
def moment (st : Session) : Moment := ⟨st.vars.heap, st.stamp, st.reading⟩

def withRecorder (st : Session) (r : Recorder) : Session := { st with recorder := r }

/-! ## Values -/

def recordScalar (st : Session) (probe : ProbeId) (s : Scalar) : Session :=
  st.withRecorder (st.recorder.recordScalar st.moment probe s)

/-- **Records what a name holds**; the absent value if it holds nothing. -/
def record (st : Session) (probe : ProbeId) (name : String) : Session :=
  st.withRecorder (st.recorder.recordValue st.moment probe (st.vars.subjectUnder? name))

/-- Records a value that is dropped at once. -/
def recordTemporary (st : Session) (probe : ProbeId) (v : HeldValue) : Session :=
  let (a, vars) := st.vars.allocate v
  let st := { st with vars := vars }
  let r := st.recorder.recordValue st.moment probe (vars.subject? a)
  { st with recorder := r, vars := vars.forget a }

/-- A name of the latest instance of a type. -/
def latestName (st : Session) (typeName : String) : Option String × Session :=
  let (found, r) := st.recorder.latestInstance st.vars.heap typeName
  (found.bind st.vars.nameOf?, st.withRecorder r)

/-! ## Producers -/

/-- **Hands over a producer** under a name: `producer` is what becomes of it once its call was opened,
    or was not. -/
def launch (st : Session) (name : String) (probe : ProbeId) (typeName : String)
    (producer : Option OpenCall → Producer) : Option OpenCall × Session :=
  let (call, r) := st.recorder.openCall st.moment probe typeName
  (call, { st with recorder := r, producers := st.producers.put name (producer call) })

/-- **Polls** the producer under a name. -/
def poll? (st : Session) (name : String) : Option (Polled × Session) :=
  (st.producers.get? name).map fun p =>
    let (polled, p, r) := p.poll st.moment st.recorder
    (polled, { st with recorder := r, producers := st.producers.put name p })

/-! ## Guards -/

/-- **Suppresses recording** under a name. A guard that the name stood for is released afterwards. -/
def suppress (st : Session) (name : String) : Session :=
  let (before, r) := st.recorder.suppress
  let r := match st.guards.get? name with
    | some older => r.release older
    | none => r
  { st with recorder := r, guards := st.guards.put name before }

/-- Releases the guard that a name stands for. -/
def release (st : Session) (name : String) : Bool × Session :=
  match st.guards.get? name with
  | some before =>
    (true, { st with recorder := st.recorder.release before, guards := st.guards.erase name })
  | none => (false, st)

/-- **Drops a name**: first its value, then its producer, then its guard. Says whether it stood for
    anything. -/
def drop (st : Session) (name : String) : Bool × Session :=
  let (held, vars) := st.vars.drop name
  let awaited := st.producers.contains name
  let (guarding, st) :=
    { st with vars := vars, producers := st.producers.erase name }.release name
  (held || awaited || guarding, st)

end Session
end ProbeRecorder
