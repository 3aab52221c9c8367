import Mathlib.Logic.Function.Basic
import ProbeRecorder.Proofs.Recorder.Logged
import ProbeRecorder.Recorder.Build

/-!
# `ProbeRecorder.Proofs.Program.History` — runs of an observed program

A program calls one recorder, in any order and in any outside world: it records values, wraps producers,
polls or drops the wrappers, registers classes, and suppresses recording for a while. Its threads take turns;
whether recording is suppressed is a matter of each thread, and everything else they share. A run is a list
of steps; its history says what each step came to and what it wrote.

## Contents
- **Steps.** `Action`, `Step`; `Wrap`, a producer that is handed over.
- **Scenes.** `ThreadState`, what a thread has to itself; `Scene`, the recorder with all wrappers and threads;
  `Scene.perform`, with an equation for each action, and with the thread's flag `Scene.act`.
- **Histories.** `Turn`, `Scene.history` and `Scene.after`.
- **Views.** `logOf`, `openings`, `answersOf`, `writtenFor`, `traced`.
- **One step.** `Scene.Effect`, everything that a step can do (`turn_effect`), and `Scene.Framed`, what it
  leaves alone (`act_framed`).
- **Whole runs.** `after_invariant`; the log is what the steps wrote (`after_extends`); histories split where
  runs do.
- **Plain runs.** Runs that witnesses are about: nothing is refused, and every value is captured.
-/

namespace ProbeRecorder

/-! ## Steps -/

/-- **A producer** as the program hands it over. -/
structure Wrap where
  probe : ProbeId
  typeName : String
  kind : ProducerKind
  answers : List Readiness
  exhausted : Readiness
  slack : Nat

/-- The wrapper of a producer whose call was opened, or was not. -/
def Wrap.observed (w : Wrap) (call : Option OpenCall) : Producer :=
  .observed w.kind w.answers w.exhausted w.slack call

/-- **What a program does** with the recorder. Wrappers and guards are numbered as they are made. -/
inductive Action where
  | scalar (probe : ProbeId) (value : Scalar)
  | value (probe : ProbeId) (value : Option Subject)
  | wrap (w : Wrap)
  | poll (wrapper : Nat)
  /-- Drops a wrapper. -/
  | discard (wrapper : Nat)
  | register (batch : WeaveBatch)
  | mark (probes : List ProbeId)
  | suppress
  | release (guard : Nat)
  | latest (typeName : String)

/-- **One step**: which thread takes it, what is done, in which moment, and which calls the sink refuses
    meanwhile. Threads are told apart by their numbers, not by the names that stamps have of them. -/
structure Step where
  thread : Nat
  moment : Moment
  refusal : SinkCall → Option RecorderError
  action : Action

/-- The sink takes everything. -/
def Accepting (steps : List Step) : Prop := ∀ step ∈ steps, ∀ call, step.refusal call = none

/-! ## Scenes -/

/-- **A producer whose call was opened**: its wrapper, where it was wrapped, and the call. -/
structure Opening where
  wrapper : Nat
  probe : ProbeId
  kind : ProducerKind
  call : OpenCall
  deriving DecidableEq, Repr

/-- **What a step came to.** -/
inductive Reply where
  | silent
  | opened (o : Opening)
  | polled (wrapper : Nat) (answer : Polled)

namespace Reply

def opening? : Reply → Option Opening
  | opened o => some o
  | _ => none

/-- The answer, if it came from the given wrapper. -/
def answer? (k : Nat) : Reply → Option Polled
  | polled j answer => if j = k then some answer else none
  | _ => none

/-- The reply came from a wrapper. -/
def isPoll : Reply → Bool
  | polled _ _ => true
  | _ => false

end Reply

/-- **What a thread has to itself**: whether recording is suppressed on it, and what each of its open guards
    gives back. A guard stays on the thread that it was made on. -/
structure ThreadState where
  suppressed : Bool := false
  guards : List (Option Bool) := []

/-- **Scene**: the recorder, all wrappers made so far, and the threads. The recorder's own flag is that of the
    thread that is at work. -/
structure Scene where
  recorder : Recorder
  wrappers : List (Option Producer) := []
  threads : Nat → ThreadState := fun _ => {}

namespace Scene

/-- The wrapper with a number, unless it was dropped. -/
def wrapper? (s : Scene) (k : Nat) : Option Producer := s.wrappers[k]?.join

/-- Recording is suppressed on a thread. -/
def suppressedOn (s : Scene) (thread : Nat) : Bool := (s.threads thread).suppressed

/-- The guards that were made on a thread. -/
def guardsOf (s : Scene) (thread : Nat) : List (Option Bool) := (s.threads thread).guards

/-- The recorder as the thread of a step finds it, while the sink refuses what it refuses during the step. -/
def facing (s : Scene) (step : Step) : Recorder :=
  { s.recorder with
    sink := { s.recorder.sink with refusal := step.refusal }
    suppressed := s.suppressedOn step.thread }

@[simp] theorem suppressed_facing (s : Scene) (step : Step) :
    (s.facing step).suppressed = s.suppressedOn step.thread := rfl

@[simp] theorem isEligible_facing (s : Scene) (step : Step) (probe : ProbeId) (object : ObjectId) :
    (s.facing step).isEligible probe object = s.recorder.isEligible probe object := rfl

def withRecorder (s : Scene) (r : Recorder) : Scene := { s with recorder := r }

def withGuards (s : Scene) (thread : Nat) (guards : List (Option Bool)) : Scene :=
  { s with threads := Function.update s.threads thread { s.threads thread with guards := guards } }

/-- The recorder's flag is put back to a thread. -/
def putBack (s : Scene) (thread : Nat) : Scene :=
  { s with threads :=
      Function.update s.threads thread { s.threads thread with suppressed := s.recorder.suppressed } }

/-- **Hands over a producer.** -/
def wrap (s : Scene) (r : Recorder) (m : Moment) (w : Wrap) : Reply × Scene :=
  let (call, r) := r.openCall m w.probe w.typeName
  let s' : Scene := { s with recorder := r, wrappers := s.wrappers ++ [some (w.observed call)] }
  match call with
  | some call => (.opened ⟨s.wrappers.length, w.probe, w.kind, call⟩, s')
  | none => (.silent, s')

/-- **Polls** a wrapper, if it is still there. -/
def poll (s : Scene) (r : Recorder) (m : Moment) (k : Nat) : Reply × Scene :=
  match s.wrapper? k with
  | some p =>
    let (answer, p, r) := p.advance m r
    (.polled k answer, { s with recorder := r, wrappers := s.wrappers.set k (some p) })
  | none => (.silent, s.withRecorder r)

/-- Suppresses recording on a thread; the guard is its next one. -/
def suppress (s : Scene) (r : Recorder) (thread : Nat) : Scene :=
  (s.withRecorder r.suppress.2).withGuards thread (s.guardsOf thread ++ [some r.suppress.1])

/-- Releases a guard of a thread, if it is still there. -/
def release (s : Scene) (r : Recorder) (thread g : Nat) : Scene :=
  match (s.guardsOf thread)[g]?.join with
  | some before => (s.withRecorder (r.release before)).withGuards thread ((s.guardsOf thread).set g none)
  | none => s.withRecorder r

/-- **What a step does**, while its thread is at work. -/
def perform (s : Scene) (step : Step) : Reply × Scene :=
  let r := s.facing step
  let m := step.moment
  match step.action with
  | .scalar probe value => (.silent, s.withRecorder (r.recordScalar m probe value))
  | .value probe value => (.silent, s.withRecorder (r.recordValue m probe value))
  | .wrap w => s.wrap r m w
  | .poll k => s.poll r m k
  | .discard k => (.silent, { s with recorder := r, wrappers := s.wrappers.set k none })
  | .register b => (.silent, s.withRecorder (r.registerBatch b).2)
  | .mark probes => (.silent, s.withRecorder (r.markRecordable probes))
  | .suppress => (.silent, s.suppress r step.thread)
  | .release g => (.silent, s.release r step.thread g)
  | .latest typeName => (.silent, s.withRecorder (r.latestInstance m.heap typeName).2)

/-- **One step**, after which the flag is its thread's again. -/
def act (s : Scene) (step : Step) : Reply × Scene :=
  ((s.perform step).1, (s.perform step).2.putBack step.thread)

/-! ### Steps by their actions -/

section Actions

variable (s : Scene) {step : Step}

theorem recorder_act (step : Step) : (s.act step).2.recorder = (s.perform step).2.recorder := rfl

theorem wrappers_act (step : Step) : (s.act step).2.wrappers = (s.perform step).2.wrappers := rfl

theorem perform_scalar {probe : ProbeId} {value : Scalar} (action : step.action = .scalar probe value) :
    s.perform step = (.silent, s.withRecorder ((s.facing step).recordScalar step.moment probe value)) := by
  rw [perform, action]

theorem perform_value {probe : ProbeId} {value : Option Subject} (action : step.action = .value probe value) :
    s.perform step = (.silent, s.withRecorder ((s.facing step).recordValue step.moment probe value)) := by
  rw [perform, action]

theorem perform_wrap {w : Wrap} (action : step.action = .wrap w) :
    s.perform step = s.wrap (s.facing step) step.moment w := by
  rw [perform, action]

theorem perform_poll {k : Nat} (action : step.action = .poll k) :
    s.perform step = s.poll (s.facing step) step.moment k := by
  rw [perform, action]

theorem perform_discard {k : Nat} (action : step.action = .discard k) :
    s.perform step =
      (.silent, { s with recorder := s.facing step, wrappers := s.wrappers.set k none }) := by
  rw [perform, action]

theorem perform_register {b : WeaveBatch} (action : step.action = .register b) :
    s.perform step = (.silent, s.withRecorder ((s.facing step).registerBatch b).2) := by
  rw [perform, action]

/-- A step that registers, as a call of `registerBatch`. -/
theorem act_register {s : Scene} {b : WeaveBatch} (action : step.action = .register b) :
    (s.act step).2.recorder = ((s.facing step).registerBatch b).2 := by
  rw [recorder_act, s.perform_register action]
  rfl

theorem perform_suppress (action : step.action = .suppress) :
    s.perform step = (.silent, s.suppress (s.facing step) step.thread) := by
  rw [perform, action]

theorem perform_release {g : Nat} (action : step.action = .release g) :
    s.perform step = (.silent, s.release (s.facing step) step.thread g) := by
  rw [perform, action]

end Actions
end Scene

/-- The scene that a program starts in. All threads find the recorder as it is. -/
def Recorder.scene (r : Recorder) : Scene where
  recorder := r
  threads _ := { suppressed := r.suppressed }

/-- A recorder is built with the options that were asked for, and with some policy. -/
theorem Recorder.eq_withPolicy_of_build {o : RecorderOptions} {sink : Sink} {r : Recorder}
    (built : build o sink = .ok r) : ∃ policy, r = withPolicy o policy sink := by
  have checked : ∀ policy : CapturePolicy,
      (if policy.isValid then Except.ok (withPolicy o policy sink)
        else Except.error (CapturePolicy.nothingEnabled policy.display)) = .ok r →
      r = withPolicy o policy sink := by
    intro policy h
    split at h
    · exact (Except.ok.inj h).symm
    · cases h
  unfold build at built
  cases ho : o.policy with
  | some policy =>
      rw [ho] at built
      exact ⟨policy, checked policy built⟩
  | none =>
      rw [ho] at built
      cases hp : CapturePolicy.derive "" with
      | error e =>
          rw [hp] at built
          cases built
      | ok policy =>
          rw [hp] at built
          exact ⟨policy, checked policy built⟩

/-! ## Histories -/

/-- **One turn of a history**: when it was, what the step came to, and what came to the log. -/
structure Turn where
  stamp : Stamp
  reply : Reply
  written : List Entry

namespace Scene

def turn (s : Scene) (step : Step) : Turn where
  stamp := step.moment.stamp
  reply := (s.act step).1
  written := (s.act step).2.recorder.sink.log.drop s.recorder.sink.log.length

/-- **The history** of a run. -/
def history (s : Scene) : List Step → List Turn
  | [] => []
  | step :: rest => s.turn step :: (s.act step).2.history rest

theorem history_cons (s : Scene) (step : Step) (rest : List Step) :
    s.history (step :: rest) = s.turn step :: (s.act step).2.history rest := rfl

/-- The scene after a run. -/
def after (s : Scene) : List Step → Scene
  | [] => s
  | step :: rest => (s.act step).2.after rest

end Scene

/-! ## Views -/

/-- Everything that was written. -/
def logOf (h : List Turn) : List Entry := h.flatMap Turn.written

/-- **The producers whose calls were opened**, in order. -/
def openings (h : List Turn) : List Opening := h.filterMap fun t => t.reply.opening?

/-- **The answers of a wrapper**, each with the time of the poll. -/
def answersOf (h : List Turn) (k : Nat) : List (Stamp × Polled) :=
  h.filterMap fun t => (t.reply.answer? k).map fun answer => (t.stamp, answer)

/-- **What polls of a wrapper wrote.** -/
def writtenFor (h : List Turn) (k : Nat) : List Entry :=
  h.flatMap fun t => if (t.reply.answer? k).isSome then t.written else []

/-- **The events written**, each with what the step that wrote it came to. -/
def traced (h : List Turn) : List (Reply × Event) :=
  h.flatMap fun t => (eventsOf t.written).map fun e => (t.reply, e)

theorem writtenFor_cons (turn : Turn) (h : List Turn) (k : Nat) :
    writtenFor (turn :: h) k =
      (if (turn.reply.answer? k).isSome then turn.written else []) ++ writtenFor h k := rfl

theorem answersOf_cons_of_none {turn : Turn} {k : Nat} (h : List Turn)
    (hr : turn.reply.answer? k = none) : answersOf (turn :: h) k = answersOf h k := by
  unfold answersOf
  rw [List.filterMap_cons, hr]
  rfl

theorem answersOf_cons_of_some {turn : Turn} {k : Nat} {answer : Polled} (h : List Turn)
    (hr : turn.reply.answer? k = some answer) :
    answersOf (turn :: h) k = (turn.stamp, answer) :: answersOf h k := by
  unfold answersOf
  rw [List.filterMap_cons, hr]
  rfl

theorem answersOf_append (h h' : List Turn) (k : Nat) :
    answersOf (h ++ h') k = answersOf h k ++ answersOf h' k := List.filterMap_append

theorem writtenFor_append (h h' : List Turn) (k : Nat) :
    writtenFor (h ++ h') k = writtenFor h k ++ writtenFor h' k := List.flatMap_append

theorem traced_cons (turn : Turn) (h : List Turn) :
    traced (turn :: h) = (eventsOf turn.written).map (fun e => (turn.reply, e)) ++ traced h := rfl

theorem logOf_cons (turn : Turn) (h : List Turn) : logOf (turn :: h) = turn.written ++ logOf h := rfl

theorem logOf_append (h k : List Turn) : logOf (h ++ k) = logOf h ++ logOf k := List.flatMap_append

theorem eventsOf_append (log log' : List Entry) : eventsOf (log ++ log') = eventsOf log ++ eventsOf log' :=
  List.filterMap_append

theorem weavesOf_append (log log' : List Entry) : weavesOf (log ++ log') = weavesOf log ++ weavesOf log' :=
  List.filterMap_append

/-- Events are no registrations. -/
theorem weavesOf_eq_nil {es : List Entry} (h : ∀ e ∈ es, ∃ event, e = .event event) : weavesOf es = [] := by
  apply List.filterMap_eq_nil_iff.mpr
  intro e he
  obtain ⟨event, rfl⟩ := h e he
  rfl

theorem openings_cons (turn : Turn) (h : List Turn) :
    openings (turn :: h) = turn.reply.opening?.toList ++ openings h := by
  unfold openings
  rw [List.filterMap_cons]
  cases turn.reply.opening? <;> rfl

theorem openings_append (h k : List Turn) : openings (h ++ k) = openings h ++ openings k :=
  List.filterMap_append

/-- The outcome in an answer. -/
def Polled.outcome? : Polled → Option CallOutcome
  | .ready outcome => some outcome
  | _ => none

/-- The outcomes in some answers, with the times they were given. -/
def outcomesIn (answers : List (Stamp × Polled)) : List (Stamp × CallOutcome) :=
  answers.filterMap fun a => a.2.outcome?.map fun outcome => (a.1, outcome)

/-- **The outcomes that are written**: the first one of a future, and those of a stream before its first
    end. -/
def ProducerKind.reported (answers : List (Stamp × Polled)) : ProducerKind → List (Stamp × CallOutcome)
  | .single => (outcomesIn answers).take 1
  | .many => outcomesIn (answers.takeWhile fun a => !ProducerKind.many.closes a.2)

/-- **Completions** of some outcomes under a call. -/
def OpenCall.completions (call : OpenCall) (codec : Codec) (outcomes : List (Stamp × CallOutcome)) :
    List Event :=
  outcomes.map fun o => call.completion codec o.1 o.2

namespace Scene

/-! ## One step -/

/-- What every step leaves alone or only adds to. -/
structure Extends (s : Scene) (es : List Entry) (t : Scene) : Prop where
  log : t.recorder.sink.log = s.recorder.sink.log ++ es
  codec : t.recorder.codec = s.recorder.codec
  discards : t.recorder.discards = s.recorder.discards
  classes : ∀ c ∈ s.recorder.classes, c ∈ t.recorder.classes

/-- No id was taken, and no probe registered. -/
structure Still (s t : Scene) : Prop where
  clock : t.recorder.clock = s.recorder.clock
  anchors : t.recorder.anchors = s.recorder.anchors

/-- The call that is opened if a step opens one at a probe. -/
def nextCall (s : Scene) (step : Step) (probe : ProbeId) : OpenCall :=
  ⟨s.recorder.clock.next step.moment.reading, s.recorder.anchors.anchorOf probe⟩

/-- **Everything that a step can do**: its reply, what it writes, and the scene it leads to. -/
inductive Effect (s : Scene) (step : Step) : Reply → List Entry → Scene → Prop where
  | aside {es : List Entry} {t : Scene} (still : s.Still t) (wrappers : t.wrappers = s.wrappers)
      (ordinary : Recorder.AtMostOrdinary es) : Effect s step .silent es t
  | dropped {t : Scene} (k : Nat) (still : s.Still t) (wrappers : t.wrappers = s.wrappers.set k none) :
      Effect s step .silent [] t
  | passed {es : List Entry} {t : Scene} (p : Producer) (still : s.Still t) (closed : p.call = none)
      (wrappers : t.wrappers = s.wrappers ++ [some p]) (ordinary : Recorder.AtMostOrdinary es) :
      Effect s step .silent es t
  | opened {t : Scene} (w : Wrap) (object : ObjectId) (action : step.action = .wrap w)
      (clock : t.recorder.clock = s.recorder.clock.advance step.moment.reading)
      (anchors : t.recorder.anchors = s.recorder.anchors)
      (wrappers : t.wrappers = s.wrappers ++ [some (w.observed (some (s.nextCall step w.probe)))]) :
      Effect s step (.opened ⟨s.wrappers.length, w.probe, w.kind, s.nextCall step w.probe⟩)
        ((s.facing step).kept .anchor
          (.event (.anchor step.moment.stamp w.probe object (s.nextCall step w.probe).correlation))) t
  | polled {t : Scene} (k : Nat) (p q : Producer) (answer : Polled) (still : s.Still t)
      (present : s.wrapper? k = some p) (wrappers : t.wrappers = s.wrappers.set k (some q))
      (kind : q.kind = p.kind) (call : q.call = if p.kind.closes answer then none else p.call) :
      Effect s step (.polled k answer) ((s.facing step).reported step.moment.stamp p.call answer) t
  | woven {t : Scene} (b : WeaveBatch) (anchor : ProbeId) (action : step.action = .register b)
      (first : b.anchor? = some anchor) (new : b.classId ∉ s.recorder.classes)
      (clock : t.recorder.clock = s.recorder.clock)
      (anchors : t.recorder.anchors = s.recorder.anchors.register anchor b.probeIds)
      (wrappers : t.wrappers = s.wrappers) :
      Effect s step .silent ((s.facing step).kept .register (.weave b.classId b.probeIds)) t

variable {s t : Scene} {es : List Entry} {step : Step}

/-- What a call of the recorder leaves alone, a step that consists of it leaves alone too. -/
theorem extends_of_logs (h : (s.facing step).Logs es t.recorder) : s.Extends es t where
  log := h.log
  codec := h.codec
  discards := h.discards
  classes := fun c hc => by rw [h.classes]; exact hc

/-- Handing over a producer, as one record. -/
theorem wrap_eq (s : Scene) (r : Recorder) (m : Moment) (w : Wrap) :
    (s.wrap r m w).2 = { s with
      recorder := (r.openCall m w.probe w.typeName).2
      wrappers := s.wrappers ++ [some (w.observed (r.openCall m w.probe w.typeName).1)] } := by
  unfold wrap
  generalize r.openCall m w.probe w.typeName = made
  obtain ⟨call, r⟩ := made
  cases call <;> rfl

/-- Polling a wrapper, as one record. -/
theorem poll_of_some {r : Recorder} {m : Moment} {k : Nat} {p : Producer} (present : s.wrapper? k = some p) :
    (s.poll r m k).2 = { s with
      recorder := (p.advance m r).2.2, wrappers := s.wrappers.set k (some (p.advance m r).2.1) } := by
  unfold poll
  rw [present]

theorem poll_of_none {r : Recorder} {m : Moment} {k : Nat} (gone : s.wrapper? k = none) :
    (s.poll r m k).2 = s.withRecorder r := by
  unfold poll
  rw [gone]

theorem still_of_logs (h : (s.facing step).Logs es t.recorder) : s.Still t := ⟨h.clock, h.anchors⟩

/-- **What handing over a producer comes to**: the call that is opened, and what is written. -/
inductive Handed (s : Scene) (step : Step) (w : Wrap) : Option OpenCall → List Entry → Prop where
  | unnoticed (suppressed : s.suppressedOn step.thread = true) : Handed s step w none []
  | identified (active : s.suppressedOn step.thread = false)
      (unopened : (s.facing step).opens w.probe w.typeName = false) :
      Handed s step w none ((s.facing step).kept .append
        (.event (.ordinary step.moment.stamp w.probe s.recorder.identities.nextId none)))
  | opened (opens : (s.facing step).opens w.probe w.typeName = true) :
      Handed s step w (some (s.nextCall step w.probe)) ((s.facing step).kept .anchor
        (.event (.anchor step.moment.stamp w.probe s.recorder.identities.nextId
          (s.nextCall step w.probe).correlation)))

/-- **Handing over a producer** makes its wrapper, and takes an id if a call is opened. -/
theorem wrap_handed (s : Scene) (step : Step) (w : Wrap) :
    ∃ call es, s.Handed step w call es ∧
      (s.wrap (s.facing step) step.moment w).1 =
        call.elim .silent (fun c => .opened ⟨s.wrappers.length, w.probe, w.kind, c⟩) ∧
      (s.wrap (s.facing step) step.moment w).2.wrappers = s.wrappers ++ [some (w.observed call)] ∧
      (if call.isSome then { s.facing step with clock := s.recorder.clock.advance step.moment.reading }
        else s.facing step).Logs es (s.wrap (s.facing step) step.moment w).2.recorder := by
  unfold wrap
  by_cases hopens : (s.facing step).opens w.probe w.typeName = true
  · obtain ⟨hc, hl⟩ := Recorder.openCall_of_opens step.moment w.probe w.typeName hopens
    generalize (s.facing step).openCall step.moment w.probe w.typeName = made at hc hl ⊢
    obtain ⟨call, r⟩ := made
    simp only at hc hl
    subst hc
    exact ⟨_, _, .opened hopens, rfl, rfl, hl⟩
  · have hpassed : ∃ es, s.Handed step w none es ∧
        ((s.facing step).openCall step.moment w.probe w.typeName).1 = none ∧
        (s.facing step).Logs es ((s.facing step).openCall step.moment w.probe w.typeName).2 := by
      cases hs : (s.facing step).suppressed with
      | true =>
          rw [Recorder.openCall_of_suppressed _ _ _ hs]
          exact ⟨[], .unnoticed hs, rfl, Recorder.Logs.refl _⟩
      | false =>
          have hno := (Bool.not_eq_true _).mp hopens
          have h := Recorder.openCall_of_not_opens step.moment w.probe w.typeName hs hno
          exact ⟨_, .identified hs hno, h⟩
    obtain ⟨es, handed, hc, hl⟩ := hpassed
    generalize (s.facing step).openCall step.moment w.probe w.typeName = made at hc hl ⊢
    obtain ⟨call, r⟩ := made
    simp only at hc hl
    subst hc
    exact ⟨none, es, handed, rfl, rfl, hl⟩

theorem wrap_effect (s : Scene) (step : Step) (w : Wrap) (action : step.action = .wrap w) :
    ∃ es, s.Extends es (s.wrap (s.facing step) step.moment w).2 ∧
      s.Effect step (s.wrap (s.facing step) step.moment w).1 es (s.wrap (s.facing step) step.moment w).2 := by
  obtain ⟨call, es, handed, hr, hw, hl⟩ := s.wrap_handed step w
  rw [hr]
  cases handed with
  | unnoticed _ =>
      exact ⟨_, extends_of_logs hl,
        .passed (w.observed none) (still_of_logs hl) rfl hw Recorder.atMostOrdinary_nil⟩
  | identified _ _ =>
      exact ⟨_, extends_of_logs hl, .passed (w.observed none) (still_of_logs hl) rfl hw
        (Recorder.atMostOrdinary_kept _ _ _ _ _ _)⟩
  | opened _ =>
      exact ⟨_, ⟨hl.log, hl.codec, hl.discards, fun c h => by rw [hl.classes]; exact h⟩,
        .opened w _ action hl.clock hl.anchors hw⟩

theorem poll_effect (s : Scene) (step : Step) (k : Nat) :
    ∃ es, s.Extends es (s.poll (s.facing step) step.moment k).2 ∧
      s.Effect step (s.poll (s.facing step) step.moment k).1 es (s.poll (s.facing step) step.moment k).2 := by
  unfold poll
  cases hp : s.wrapper? k with
  | none =>
      have hl := Recorder.Logs.refl (s.facing step)
      exact ⟨[], extends_of_logs hl, .aside (still_of_logs hl) rfl Recorder.atMostOrdinary_nil⟩
  | some p =>
      obtain ⟨hl, hk, hc⟩ := p.advance_logs step.moment (s.facing step)
      simp only
      generalize p.advance step.moment (s.facing step) = made at hl hk hc ⊢
      obtain ⟨answer, q, r⟩ := made
      exact ⟨_, extends_of_logs hl, .polled k p q answer (still_of_logs hl) hp rfl hk hc⟩

theorem register_effect (s : Scene) (step : Step) (b : WeaveBatch) (action : step.action = .register b) :
    ∃ es, s.Extends es (s.withRecorder ((s.facing step).registerBatch b).2) ∧
      s.Effect step .silent es (s.withRecorder ((s.facing step).registerBatch b).2) := by
  cases ha : b.anchor? with
  | none =>
      rw [Recorder.registerBatch_of_known b (.inl ha)]
      have hl := Recorder.Logs.refl (s.facing step)
      exact ⟨[], extends_of_logs hl, .aside (still_of_logs hl) rfl Recorder.atMostOrdinary_nil⟩
  | some anchor =>
      by_cases hk : b.classId ∈ (s.facing step).classes
      · rw [Recorder.registerBatch_of_known b (.inr hk)]
        have hl := Recorder.Logs.refl (s.facing step)
        exact ⟨[], extends_of_logs hl, .aside (still_of_logs hl) rfl Recorder.atMostOrdinary_nil⟩
      · have hl := Recorder.registerBatch_of_new b ha hk
        exact ⟨_, ⟨hl.log, hl.codec, hl.discards,
            fun c h => Recorder.mem_classes_registerBatch b (.inl h)⟩,
          .woven b anchor action ha hk hl.clock hl.anchors rfl⟩

theorem release_effect (s : Scene) (step : Step) (g : Nat) :
    ∃ es, s.Extends es (s.release (s.facing step) step.thread g) ∧
      s.Effect step .silent es (s.release (s.facing step) step.thread g) := by
  unfold release
  split <;>
    exact ⟨[], ⟨(List.append_nil _).symm, rfl, rfl, fun _ h => h⟩,
      .aside ⟨rfl, rfl⟩ rfl Recorder.atMostOrdinary_nil⟩

/-- **What a step does** has one of these effects. -/
theorem perform_effect (s : Scene) (step : Step) :
    ∃ es, s.Extends es (s.perform step).2 ∧ s.Effect step (s.perform step).1 es (s.perform step).2 := by
  have recorded : ∀ r : Recorder,
      (∃ es, (s.facing step).Logs es r ∧ Recorder.AtMostOrdinary es) →
      ∃ es, s.Extends es (s.withRecorder r) ∧ s.Effect step .silent es (s.withRecorder r) := by
    rintro r ⟨es, hl, ho⟩
    exact ⟨es, extends_of_logs hl, .aside (still_of_logs hl) rfl ho⟩
  unfold perform
  cases h : step.action with
  | scalar probe value => exact recorded _ ((s.facing step).recordScalar_logs _ _ _)
  | value probe value => exact recorded _ ((s.facing step).recordValue_logs _ _ _)
  | wrap w => exact s.wrap_effect step w h
  | poll k => exact s.poll_effect step k
  | discard k =>
      have hl := Recorder.Logs.refl (s.facing step)
      exact ⟨[], extends_of_logs hl, .dropped k (still_of_logs hl) rfl⟩
  | register b => exact s.register_effect step b h
  | mark probes =>
      exact recorded _ ⟨[], (s.facing step).markRecordable_logs probes, Recorder.atMostOrdinary_nil⟩
  | suppress =>
      exact ⟨[], ⟨(List.append_nil _).symm, rfl, rfl, fun _ h => h⟩,
        .aside ⟨rfl, rfl⟩ rfl Recorder.atMostOrdinary_nil⟩
  | release g => exact s.release_effect step g
  | latest typeName =>
      exact recorded _ ⟨[], (s.facing step).latestInstance_logs _ typeName, Recorder.atMostOrdinary_nil⟩

/-- Where the flag is kept is none of the effects. -/
theorem Effect.putBack {reply : Reply} (h : s.Effect step reply es t) (thread : Nat) :
    s.Effect step reply es (t.putBack thread) := by
  cases h with
  | aside still wrappers ordinary => exact .aside ⟨still.clock, still.anchors⟩ wrappers ordinary
  | dropped k still wrappers => exact .dropped k ⟨still.clock, still.anchors⟩ wrappers
  | passed p still closed wrappers ordinary =>
      exact .passed p ⟨still.clock, still.anchors⟩ closed wrappers ordinary
  | opened w object action clock anchors wrappers => exact .opened w object action clock anchors wrappers
  | polled k p q answer still present wrappers kind call =>
      exact .polled k p q answer ⟨still.clock, still.anchors⟩ present wrappers kind call
  | woven b anchor action first new clock anchors wrappers =>
      exact .woven b anchor action first new clock anchors wrappers

/-- **One step has one of these effects.** -/
theorem act_effect (s : Scene) (step : Step) :
    ∃ es, s.Extends es (s.act step).2 ∧ s.Effect step (s.act step).1 es (s.act step).2 := by
  obtain ⟨es, hx, he⟩ := s.perform_effect step
  exact ⟨es, ⟨hx.log, hx.codec, hx.discards, hx.classes⟩, he.putBack step.thread⟩

/-- What a step writes is what comes to the log. -/
theorem written_of_log (h : (s.act step).2.recorder.sink.log = s.recorder.sink.log ++ es) :
    (s.turn step).written = es := by
  unfold turn
  rw [h, List.drop_left]

/-- The same for the turn of a history. -/
theorem turn_effect (s : Scene) (step : Step) :
    s.Extends (s.turn step).written (s.act step).2 ∧
      s.Effect step (s.turn step).reply (s.turn step).written (s.act step).2 := by
  obtain ⟨es, hx, he⟩ := s.act_effect step
  rw [written_of_log hx.log]
  exact ⟨hx, he⟩

/-- **The frame of a step**: it starts from `r`, which is the recorder it faces but for the clock, the anchors,
    the classes and the flag; only registrations change the classes first, and only guards the flag. -/
structure Framed (s : Scene) (step : Step) (r : Recorder) (es : List Entry) : Prop where
  logs : r.Logs es (s.act step).2.recorder
  rest : r = { s.facing step with
    clock := r.clock, anchors := r.anchors, classes := r.classes, suppressed := r.suppressed }
  classes : (∀ b, step.action ≠ .register b) → r.classes = s.recorder.classes
  suppressed : step.action ≠ .suppress → (∀ g, step.action ≠ .release g) →
    r.suppressed = s.suppressedOn step.thread

/-- A step that changes neither the flag nor the clock, the anchors or the classes before it writes. -/
theorem framed_of_logs (logs : (s.facing step).Logs es (s.act step).2.recorder) :
    s.Framed step (s.facing step) es :=
  ⟨logs, rfl, fun _ => rfl, fun _ _ => rfl⟩

theorem wrap_framed (s : Scene) {w : Wrap} (action : step.action = .wrap w) : ∃ r es, s.Framed step r es := by
  obtain ⟨call, es, _, _, _, logs⟩ := s.wrap_handed step w
  rw [← s.perform_wrap action] at logs
  refine ⟨_, es, logs, ?_, fun _ => ?_, fun _ _ => ?_⟩ <;> split <;> rfl

theorem poll_framed (s : Scene) {k : Nat} (action : step.action = .poll k) : ∃ r es, s.Framed step r es := by
  cases present : s.wrapper? k with
  | none =>
      refine ⟨_, [], framed_of_logs ?_⟩
      rw [recorder_act, s.perform_poll action, poll_of_none present]
      exact Recorder.Logs.refl _
  | some p =>
      have logs := (p.advance_logs step.moment (s.facing step)).1
      have recorder : (s.act step).2.recorder = (p.advance step.moment (s.facing step)).2.2 := by
        rw [recorder_act, s.perform_poll action, poll_of_some present]
      rw [← recorder] at logs
      exact ⟨_, _, framed_of_logs logs⟩

theorem register_framed (s : Scene) {b : WeaveBatch} (action : step.action = .register b) :
    ∃ r es, s.Framed step r es := by
  have recorder := act_register action (s := s)
  by_cases known : b.anchor? = none ∨ b.classId ∈ (s.facing step).classes
  · rw [Recorder.registerBatch_of_known b known] at recorder
    refine ⟨_, [], framed_of_logs ?_⟩
    rw [recorder]
    exact Recorder.Logs.refl _
  · obtain ⟨first, new⟩ := not_or.mp known
    obtain ⟨anchor, first⟩ := Option.ne_none_iff_exists'.mp first
    have logs := Recorder.registerBatch_of_new b first new
    rw [← recorder] at logs
    exact ⟨_, _, logs, rfl, fun none => absurd action (none b), fun _ _ => rfl⟩

theorem suppress_framed (s : Scene) (action : step.action = .suppress) : ∃ r es, s.Framed step r es := by
  refine ⟨(s.facing step).suppress.2, [], ?_, rfl, fun _ => rfl, fun none => absurd action none⟩
  rw [recorder_act, s.perform_suppress action]
  exact Recorder.Logs.refl _

theorem release_framed (s : Scene) {g : Nat} (action : step.action = .release g) :
    ∃ r es, s.Framed step r es := by
  have recorder := s.recorder_act step
  rw [s.perform_release action] at recorder
  unfold release at recorder
  refine ⟨(s.act step).2.recorder, [], Recorder.Logs.refl _, ?_, fun _ => ?_, fun _ none => absurd action (none g)⟩
    <;> rw [recorder] <;> simp only <;> split <;> rfl

/-- **Every step has a frame.** -/
theorem act_framed (s : Scene) (step : Step) : ∃ r es, s.Framed step r es := by
  cases action : step.action with
  | scalar probe value =>
      obtain ⟨es, logs, _⟩ := (s.facing step).recordScalar_logs step.moment probe value
      refine ⟨_, es, framed_of_logs ?_⟩
      rw [recorder_act, s.perform_scalar action]
      exact logs
  | value probe value =>
      obtain ⟨es, logs, _⟩ := (s.facing step).recordValue_logs step.moment probe value
      refine ⟨_, es, framed_of_logs ?_⟩
      rw [recorder_act, s.perform_value action]
      exact logs
  | wrap w => exact s.wrap_framed action
  | poll k => exact s.poll_framed action
  | register b => exact s.register_framed action
  | suppress => exact s.suppress_framed action
  | release g => exact s.release_framed action
  | _ =>
      refine ⟨_, [], framed_of_logs ?_⟩
      rw [recorder_act, perform, action]
      exact Recorder.logs_nil rfl

/-! ## Whole runs -/

/-- **What every step keeps**, every run keeps. -/
theorem after_invariant {P : Scene → Prop} (kept : ∀ s step, P s → P (s.act step).2) :
    ∀ (steps : List Step) {s : Scene}, P s → P (s.after steps) := by
  intro steps
  induction steps with
  | nil => exact fun h => h
  | cons step rest ih => exact fun h => ih (kept _ step h)

theorem Extends.refl (s : Scene) : s.Extends [] s :=
  ⟨(List.append_nil _).symm, rfl, rfl, fun _ h => h⟩

theorem Extends.trans {u : Scene} {fs : List Entry} (h : s.Extends es t) (k : t.Extends fs u) :
    s.Extends (es ++ fs) u where
  log := by rw [k.log, h.log, List.append_assoc]
  codec := k.codec.trans h.codec
  discards := k.discards.trans h.discards
  classes := fun c hc => k.classes c (h.classes c hc)

/-- **The log of a run** is the log before it, and then what its steps wrote. -/
theorem after_extends : ∀ (steps : List Step) (s : Scene),
    s.Extends (logOf (s.history steps)) (s.after steps) := by
  intro steps
  induction steps with
  | nil => exact fun s => Extends.refl s
  | cons step rest ih =>
      intro s
      exact (s.turn_effect step).1.trans (ih (s.act step).2)

theorem after_append (pre post : List Step) :
    ∀ s : Scene, s.after (pre ++ post) = (s.after pre).after post := by
  induction pre with
  | nil => exact fun s => rfl
  | cons step rest ih => exact fun s => ih (s.act step).2

/-- **Histories split where runs do.** -/
theorem history_append (pre post : List Step) :
    ∀ s : Scene, s.history (pre ++ post) = s.history pre ++ (s.after pre).history post := by
  induction pre with
  | nil => exact fun s => rfl
  | cons step rest ih =>
      intro s
      exact congrArg (s.turn step :: ·) (ih (s.act step).2)

/-- A turn of a history belongs to a step of the run. -/
theorem exists_step_of_mem_history {turn : Turn} : ∀ (steps : List Step) (s : Scene),
    turn ∈ s.history steps →
    ∃ pre step post, steps = pre ++ step :: post ∧ turn = (s.after pre).turn step := by
  intro steps
  induction steps with
  | nil => exact fun s h => nomatch h
  | cons step rest ih =>
      intro s h
      rcases List.mem_cons.mp h with h | h
      · exact ⟨[], step, rest, rfl, h⟩
      · obtain ⟨pre, x, post, hsplit, hturn⟩ := ih (s.act step).2 h
        exact ⟨step :: pre, x, post, by rw [hsplit]; rfl, hturn⟩

/-- No step takes back the number of a wrapper. -/
theorem Effect.wrappers_length_le {reply : Reply} (h : s.Effect step reply es t) :
    s.wrappers.length ≤ t.wrappers.length := by
  cases h with
  | aside _ hw => exact Nat.le_of_eq (by rw [hw])
  | dropped k _ hw => exact Nat.le_of_eq (by rw [hw, List.length_set])
  | passed p _ _ hw => exact Nat.le.intro (by rw [hw, List.length_append])
  | opened w _ _ _ _ hw => exact Nat.le.intro (by rw [hw, List.length_append])
  | polled k p q _ _ _ hw => exact Nat.le_of_eq (by rw [hw, List.length_set])
  | woven b _ _ _ _ _ _ hw => exact Nat.le_of_eq (by rw [hw])

theorem wrappers_length_le_after : ∀ (steps : List Step) (s : Scene),
    s.wrappers.length ≤ (s.after steps).wrappers.length := by
  intro steps
  induction steps with
  | nil => exact fun s => Nat.le_refl _
  | cons step rest ih =>
      intro s
      exact Nat.le_trans (s.turn_effect step).2.wrappers_length_le (ih (s.act step).2)

theorem wrapper?_eq_none_of_le {k : Nat} (h : s.wrappers.length ≤ k) : s.wrapper? k = none := by
  unfold wrapper?
  rw [List.getElem?_eq_none h]
  rfl

theorem lt_of_wrapper?_eq_some {k : Nat} {p : Producer} (h : s.wrapper? k = some p) :
    k < s.wrappers.length := by
  apply Nat.lt_of_not_le
  intro hk
  rw [wrapper?_eq_none_of_le hk] at h
  cases h

/-- The wrapper with a number after another one was put under some number. -/
theorem wrapper?_of_set {j k : Nat} {p : Option Producer} (h : t.wrappers = s.wrappers.set j p) :
    t.wrapper? k = if j = k ∧ k < s.wrappers.length then p else s.wrapper? k := by
  unfold wrapper?
  rw [h, List.getElem?_set]
  by_cases hj : j = k
  · subst hj
    by_cases hl : j < s.wrappers.length
    · rw [if_pos rfl, if_pos hl, if_pos ⟨rfl, hl⟩]
      rfl
    · rw [if_pos rfl, if_neg hl, if_neg fun h => hl h.2, List.getElem?_eq_none (Nat.le_of_not_lt hl)]
  · rw [if_neg hj, if_neg fun h => hj h.1]

/-- The wrapper with a number after a new one was made. -/
theorem wrapper?_of_append {k : Nat} {p : Producer} (h : t.wrappers = s.wrappers ++ [some p]) :
    t.wrapper? k = if k = s.wrappers.length then some p else s.wrapper? k := by
  unfold wrapper?
  rw [h]
  by_cases hk : k = s.wrappers.length
  · rw [if_pos hk, hk, List.getElem?_concat_length]
    rfl
  · rw [if_neg hk]
    rcases Nat.lt_or_gt_of_ne hk with hl | hl
    · rw [List.getElem?_append_left hl]
    · rw [List.getElem?_eq_none (by rw [List.length_append]; exact hl),
        List.getElem?_eq_none (Nat.le_of_lt hl)]

/-- Handing over a producer, as a turn of a history. -/
theorem turn_handed (s : Scene) {step : Step} {w : Wrap} (action : step.action = .wrap w) :
    ∃ call, s.Handed step w call (s.turn step).written ∧
      (s.turn step).reply =
        call.elim .silent (fun c => .opened ⟨s.wrappers.length, w.probe, w.kind, c⟩) ∧
      (s.act step).2.wrapper? s.wrappers.length = some (w.observed call) := by
  obtain ⟨call, es, handed, hr, hw, hl⟩ := s.wrap_handed step w
  rw [← s.perform_wrap action] at hr hw hl
  have hlog : (s.act step).2.recorder.sink.log = s.recorder.sink.log ++ es := by
    refine hl.log.trans ?_
    split <;> rfl
  have hes : (s.turn step).written = es := written_of_log hlog
  refine ⟨call, hes ▸ handed, hr, ?_⟩
  rw [wrapper?_of_append (t := (s.act step).2) hw, if_pos rfl]

end Scene

/-! ## Plain runs -/

/-- Options of a recorder that captures every value. -/
def RecorderOptions.capturing : RecorderOptions :=
  { policy := some (.ofCategories fun _ => true), builtinExclusions := false }

theorem Recorder.build_capturing (sink : Sink) :
    build .capturing sink = .ok (withPolicy .capturing (.ofCategories fun _ => true) sink) := rfl

/-- Steps of one thread at some clock readings, during which the sink takes everything. -/
def acceptedSteps (actions : List (Int64 × Action)) : List Step :=
  actions.map fun a => ⟨0, ⟨.empty, ⟨0, "main"⟩, a.1⟩, fun _ => none, a.2⟩

theorem accepting_acceptedSteps (actions : List (Int64 × Action)) : Accepting (acceptedSteps actions) := by
  intro step hstep call
  obtain ⟨a, _, rfl⟩ := List.mem_map.mp hstep
  rfl

end ProbeRecorder
