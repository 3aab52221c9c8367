import ProbeRecorder.Proofs.Recorder.Submissions
import ProbeRecorder.Recorder.Build

/-!
# `ProbeRecorder.Proofs.Recorder.Rulings` — what is written of a value, and what it costs

Recording a value hands the sink one event, whatever the code of the value does. What the event carries, and
what is not serialized any more afterwards, is said here by rules that stand side by side, whereas the
recorder tries one thing after the other. The rules are complete and do not overlap.

## Contents
- **Rules.** `Ruling`, a payload and a `Loss`; `Recorder.Eligible`, `Recorder.Excludes` and `Recorder.Fails`,
  which `Recorder.Rules` are made of.
- **One ruling.** A value has exactly one ruling, that of its fate (`Recorder.rules_iff`).
- **Offers.** `Recorder.Offers`, one event handed to the sink.
- **Recording.** `Recorder.Recorded`, all that a ruling comes to (`Recorder.recordValue_ruled`).
-/

namespace ProbeRecorder

/-! ## Rules -/

/-- **What a value costs.** -/
inductive Loss where
  | nothing
  /-- Later values at the probe are not serialized. -/
  | probe
  /-- Nor is the value itself, at any probe. -/
  | probeAndValue
  deriving DecidableEq, Repr

/-- **A ruling on a value**: what its event carries, and what is lost. -/
structure Ruling where
  payload : Option Bytes
  loss : Loss
  deriving DecidableEq, Repr

/-- The ruling that a fate amounts to. -/
def Fate.ruling : Fate → Ruling
  | identified => ⟨none, .nothing⟩
  | excluded => ⟨none, .probe⟩
  | tried (.ok payload) => ⟨some payload, .nothing⟩
  | tried (.error e) => ⟨some (Payload.failure e.message), .probeAndValue⟩

theorem Fate.bars_iff (fate : Fate) : fate.bars = true ↔ fate.ruling.loss ≠ .nothing := by
  cases fate with
  | tried result => cases result <;> simp [bars, fails, ruling]
  | _ => decide

theorem Fate.fails_iff (fate : Fate) : fate.fails = true ↔ fate.ruling.loss = .probeAndValue := by
  cases fate with
  | tried result => cases result <;> simp [fails, ruling]
  | _ => decide

/-- Values of this shape are serialized by their own code. -/
def Shape.RunsCode (shape : Shape) : Prop := shape = .plain ∨ shape = .completion

namespace Recorder

variable {r s : Recorder} {m : Moment} {probe : ProbeId} {object : ObjectId} {value : Option Subject}
  {subject : Subject} {ruling : Ruling} {es : List Entry} {e : Event}

/-- **Everything allows that a value is serialized**: mode, policy, probe and identity. -/
structure Eligible (r : Recorder) (probe : ProbeId) (object : ObjectId) : Prop where
  detailed : r.mode = .detailed
  wanted : r.policy.allows .object = true
  recordable : probe ∈ r.recordable
  unskipped : object ∉ r.skipped

/-- **The value is of a kind that is never serialized.** -/
def Excludes (r : Recorder) (subject : Subject) : Prop :=
  subject.shape = .typeLiteral ∨ subject.shape = .lazySequence ∨
    r.exclusions.isExcluded subject.typeName = true

/-- **Serialization fails** with an error. A completion without a result fails only inside another value. -/
inductive Fails (r : Recorder) : Option Subject → RecorderError → Prop
  | absent {e : RecorderError} (refused : r.codec.encode .null = .error e) : Fails r none e
  | error {subject : Subject} {e : RecorderError} (runs : subject.shape.RunsCode)
      (outcome : subject.script.outcome = .error e) : Fails r (some subject) e
  | panic {subject : Subject} {message : Option String} (runs : subject.shape.RunsCode)
      (outcome : subject.script.outcome = .panic message) : Fails r (some subject) (panicError message)
  | unresolved {subject : Subject} (shape : subject.shape = .plain)
      (outcome : subject.script.outcome = .unresolved) : Fails r (some subject) unresolvedError
  | refused {subject : Subject} {v : Json} {e : RecorderError} (runs : subject.shape.RunsCode)
      (outcome : subject.script.outcome = .value v) (refused : r.codec.encode v = .error e) :
      Fails r (some subject) e

/-- **The rules** for a value that is met at a probe under an identity. -/
inductive Rules (r : Recorder) (probe : ProbeId) (object : ObjectId) : Option Subject → Ruling → Prop
  | withheld {value : Option Subject} (ineligible : ¬ r.Eligible probe object) :
      Rules r probe object value ⟨none, .nothing⟩
  | excluded {subject : Subject} (eligible : r.Eligible probe object) (excludes : r.Excludes subject) :
      Rules r probe object (some subject) ⟨none, .probe⟩
  | absent {payload : Bytes} (eligible : r.Eligible probe object)
      (encoded : r.codec.encode .null = .ok payload) :
      Rules r probe object none ⟨some payload, .nothing⟩
  | verbatim {subject : Subject} {content : Bytes} (eligible : r.Eligible probe object)
      (admits : ¬ r.Excludes subject) (shape : subject.shape = .bytes content) :
      Rules r probe object (some subject) ⟨some content, .nothing⟩
  | encoded {subject : Subject} {v : Json} {payload : Bytes} (eligible : r.Eligible probe object)
      (admits : ¬ r.Excludes subject) (runs : subject.shape.RunsCode)
      (outcome : subject.script.outcome = .value v) (encoded : r.codec.encode v = .ok payload) :
      Rules r probe object (some subject) ⟨some payload, .nothing⟩
  | unavailable {subject : Subject} (eligible : r.Eligible probe object) (admits : ¬ r.Excludes subject)
      (shape : subject.shape = .completion) (outcome : subject.script.outcome = .unresolved) :
      Rules r probe object (some subject) ⟨some Payload.unavailable, .nothing⟩
  | failed {value : Option Subject} {e : RecorderError} (eligible : r.Eligible probe object)
      (admits : ∀ subject ∈ value, ¬ r.Excludes subject) (fails : r.Fails value e) :
      Rules r probe object value ⟨some (Payload.failure e.message), .probeAndValue⟩

/-! ## One ruling -/

theorem eligible_iff : r.Eligible probe object ↔ r.isEligible probe object = true := by
  unfold isEligible RecordingMode.serializes
  simp only [Bool.and_eq_true, decide_eq_true_eq, Bool.not_eq_true', decide_eq_false_iff_not]
  constructor
  · rintro ⟨detailed, wanted, recordable, unskipped⟩
    exact ⟨⟨⟨detailed, wanted⟩, recordable⟩, unskipped⟩
  · rintro ⟨⟨⟨detailed, wanted⟩, recordable⟩, unskipped⟩
    exact ⟨detailed, wanted, recordable, unskipped⟩

theorem excludes_iff : r.Excludes subject ↔
    (subject.shape.isOpaque || r.exclusions.isExcluded subject.typeName) = true := by
  unfold Excludes
  cases subject.shape <;> simp [Shape.isOpaque]

theorem attempt_of_excludes (h : r.Excludes subject) : r.attempt (some subject) = .excluded :=
  if_pos (excludes_iff.mp h)

theorem attempt_of_admits (h : ¬ r.Excludes subject) : r.attempt (some subject) =
    .tried (payloadOf r.codec subject.shape subject.script.outcome) :=
  if_neg (mt excludes_iff.mpr h)

/-- What code leads to is encoded, if it leads to something. -/
theorem attempt_of_runs {outcome : Outcome} (admits : ¬ r.Excludes subject) (runs : subject.shape.RunsCode)
    (ends : subject.script.outcome = outcome) (ready : outcome ≠ .unresolved) :
    r.attempt (some subject) = .tried (outcome.structure.bind r.codec.encode) := by
  rw [attempt_of_admits admits, ends]
  obtain shape | shape := runs
  · rw [shape]
    rfl
  · rw [shape]
    cases outcome with
    | unresolved => exact absurd rfl ready
    | _ => rfl

theorem attempt_of_fails {e : RecorderError} (admits : ∀ subject ∈ value, ¬ r.Excludes subject)
    (fails : r.Fails value e) : r.attempt value = .tried (.error e) := by
  cases fails with
  | absent refused => rw [attempt, refused]
  | error runs outcome => exact attempt_of_runs (admits _ rfl) runs outcome (by simp)
  | panic runs outcome => exact attempt_of_runs (admits _ rfl) runs outcome (by simp)
  | unresolved shape outcome =>
      rw [attempt_of_admits (admits _ rfl), shape, outcome]
      rfl
  | refused runs outcome refused =>
      rw [attempt_of_runs (admits _ rfl) runs outcome (by simp)]
      exact congrArg Fate.tried refused

/-- **The rules do not overlap**: whichever applies to an eligible value rules what trying it leads to. -/
theorem ruling_attempt (eligible : r.Eligible probe object) (h : r.Rules probe object value ruling) :
    (r.attempt value).ruling = ruling := by
  cases h with
  | withheld ineligible => exact absurd eligible ineligible
  | excluded _ excludes => rw [attempt_of_excludes excludes, Fate.ruling]
  | absent _ encoded => rw [attempt, encoded, Fate.ruling]
  | verbatim _ admits shape =>
      rw [attempt_of_admits admits, shape]
      rfl
  | encoded _ admits runs outcome encoded =>
      rw [attempt_of_runs admits runs outcome (by simp)]
      show (Fate.tried (r.codec.encode _)).ruling = _
      rw [encoded, Fate.ruling]
  | unavailable _ admits shape outcome =>
      rw [attempt_of_admits admits, shape, outcome]
      rfl
  | failed _ admits fails => rw [attempt_of_fails admits fails, Fate.ruling]

/-- Whatever the code of a value leads to, a rule says what becomes of it. -/
theorem rules_of_runs (eligible : r.Eligible probe object) (admits : ¬ r.Excludes subject)
    (runs : subject.shape.RunsCode)
    (ready : subject.shape = .completion → subject.script.outcome ≠ .unresolved) :
    r.Rules probe object (some subject) (r.attempt (some subject)).ruling := by
  have failed : ∀ e, r.Fails (some subject) e →
      r.Rules probe object (some subject) (r.attempt (some subject)).ruling := by
    intro e fails
    have admitted : ∀ s ∈ some subject, ¬ r.Excludes s := by
      rintro _ ⟨⟩
      exact admits
    rw [attempt_of_fails admitted fails]
    exact .failed eligible admitted fails
  cases outcome : subject.script.outcome with
  | value v =>
      cases encoded : r.codec.encode v with
      | ok payload =>
          have rule : r.Rules probe object (some subject) ⟨some payload, .nothing⟩ :=
            .encoded eligible admits runs outcome encoded
          rwa [ruling_attempt eligible rule]
      | error e => exact failed e (.refused runs outcome encoded)
  | error e => exact failed e (.error runs outcome)
  | panic message => exact failed _ (.panic runs outcome)
  | unresolved =>
      have shape : subject.shape = .plain := runs.resolve_right fun completion => ready completion outcome
      exact failed _ (.unresolved shape outcome)

/-- **The rules are complete**: one applies to every eligible value. -/
theorem rules_attempt (eligible : r.Eligible probe object) (value : Option Subject) :
    r.Rules probe object value (r.attempt value).ruling := by
  cases value with
  | none =>
      cases encoded : r.codec.encode .null with
      | ok payload =>
          rw [attempt, encoded]
          exact .absent eligible encoded
      | error e =>
          rw [attempt, encoded]
          exact .failed eligible (by simp) (.absent encoded)
  | some subject =>
      by_cases excludes : r.Excludes subject
      · rw [attempt_of_excludes excludes]
        exact .excluded eligible excludes
      · cases shape : subject.shape with
        | bytes content =>
            rw [attempt_of_admits excludes, shape]
            exact .verbatim eligible excludes shape
        | typeLiteral => exact absurd (.inl shape) excludes
        | lazySequence => exact absurd (.inr (.inl shape)) excludes
        | plain => exact rules_of_runs eligible excludes (.inl shape) (by simp [shape])
        | completion =>
            by_cases unresolved : subject.script.outcome = .unresolved
            · rw [attempt_of_admits excludes, shape, unresolved]
              exact .unavailable eligible excludes shape unresolved
            · exact rules_of_runs eligible excludes (.inr shape) fun _ => unresolved

/-- **A value has exactly one ruling**, that of its fate. -/
theorem rules_iff : r.Rules probe (r.identityOf m value) value ruling ↔
    ruling = (r.fate m probe value).ruling := by
  by_cases eligible : r.Eligible probe (r.identityOf m value)
  · have fate : r.fate m probe value = r.attempt value := if_pos (eligible_iff.mp eligible)
    rw [fate]
    constructor
    · exact fun h => (ruling_attempt eligible h).symm
    · rintro rfl
      exact rules_attempt eligible value
  · have fate : r.fate m probe value = .identified := if_neg (mt eligible_iff.mpr eligible)
    rw [fate]
    constructor
    · intro h
      -- Every rule but the first is for eligible values.
      cases h with
      | withheld _ => rfl
      | _ => exact absurd (by assumption) eligible
    · rintro rfl
      exact .withheld eligible

/-! ## Offers -/

/-- **One event was handed to the sink**, which took it or refused it. -/
structure Offers (r : Recorder) (e : Event) (after : Recorder) : Prop where
  sink : after.sink = if r.discards then r.sink else (r.sink.append e).2
  emitted : after.stats.emitted = r.stats.emitted + if r.accepts e then 1 else 0
  sinkFailures : after.stats.sinkFailures = r.stats.sinkFailures + if r.accepts e then 0 else 1

/-- The log and the counters tell that it was one event. -/
theorem offers_of_submits {d : Draft} {ps : List ProbeId}
    (logs : r.Logs (r.kept (Sink.callFor d.event) (.event d.event)) s)
    (submits : r.Submits [r.submission d] ps s) : r.Offers d.event s where
  sink := by
    obtain ⟨log, refusal⟩ := And.intro logs.log logs.refusal
    generalize s.sink = after at log refusal
    obtain ⟨entries, refuses⟩ := after
    simp only at log refusal
    subst log refusal
    unfold kept Sink.append Sink.accept
    cases r.discards with
    | true => simp
    | false => cases h : r.sink.refusal (Sink.callFor d.event) <;> simp
  emitted := by
    rw [submits.stats]
    show r.stats.emitted + List.countP _ [_] = _
    cases h : r.accepts d.event <;> simp [submission, h]
  sinkFailures := by
    rw [submits.stats]
    show r.stats.sinkFailures + List.countP _ [_] = _
    cases h : r.accepts d.event <;> simp [submission, h]

/-! ## Recording -/

/-- Where the log and what decides about it are known, the rest are identities, sets and statistics. -/
theorem Logs.state (h : r.Logs es s) (probes : s.probes = r.probes) : s = { r with
    sink := s.sink, identities := s.identities, recordable := s.recordable, skipped := s.skipped
    stats := s.stats } := by
  obtain ⟨_, _, discards, codec, mode, policy, exclusions, classes, anchors, clock, suppressed⟩ := h
  cases s
  simp only [Recorder.mk.injEq, true_and]
  exact ⟨policy, mode, codec, exclusions, discards, probes, classes, anchors, clock, suppressed⟩

/-- **Meeting a fate** brings one event to the log. -/
theorem meet_logs (fate : Fate) :
    r.Logs (r.kept .append (.event (fate.draft m probe object).event)) (r.meet m probe object fate) := by
  cases fate with
  | identified => exact r.emitIdentity_logs m probe object
  | excluded => exact (r.excludeProbe_logs probe).then_kept (emitIdentity_logs _ m probe object)
  | tried result =>
      cases result with
      | ok payload => exact r.emitSerialized_logs m probe object payload
      | error e => exact r.fail_logs m probe object e

/-- The event of a fate carries what its ruling says. -/
theorem draft_event (fate : Fate) :
    (fate.draft m probe object).event = .ordinary m.stamp probe object fate.ruling.payload := by
  cases fate with
  | tried result => cases result <;> rfl
  | _ => rfl

theorem emit_probes (r : Recorder) (e : Event) : (r.emit e).2.probes = r.probes := by
  unfold emit
  split
  · rfl
  · split <;> rfl

/-- The answer to an event may be counted. -/
theorem emit_counted_probes (r : Recorder) (e : Event) (count : Recorder → RecorderStats) :
    (match r.emit e with
      | (true, s) => { s with stats := count s }
      | (false, s) => s).probes = r.probes := by
  have h := r.emit_probes e
  generalize r.emit e = answer at h ⊢
  obtain ⟨accepted, s⟩ := answer
  cases accepted <;> exact h

/-- No fate changes a descriptor. -/
theorem meet_probes (fate : Fate) : (r.meet m probe object fate).probes = r.probes := by
  cases fate with
  | identified => exact r.emit_counted_probes _ _
  | excluded =>
      have excluded : (r.excludeProbe probe).probes = r.probes := by
        unfold excludeProbe
        split <;> rfl
      exact (emit_counted_probes _ _ _).trans excluded
  | tried result =>
      cases result with
      | ok payload => exact r.emit_counted_probes _ _
      | error e => exact emit_probes _ _

/-- **All that a ruling comes to.** Descriptors, classes, the anchor table, the clock and what the recorder
    was made with are as before, and so are the other members of both sets. -/
structure Recorded (r : Recorder) (m : Moment) (probe : ProbeId) (value : Option Subject) (ruling : Ruling)
    (after : Recorder) : Prop where
  state : after = { r with
    sink := after.sink, identities := after.identities, recordable := after.recordable
    skipped := after.skipped, stats := after.stats }
  offers : r.Offers (.ordinary m.stamp probe (r.identityOf m value) ruling.payload) after
  identities : after.identities = (r.identified m value).identities
  recordable : ∀ p, p ∈ after.recordable ↔ p ∈ r.recordable ∧ (ruling.loss ≠ .nothing → p ≠ probe)
  skipped : ∀ id, id ∈ after.skipped ↔
    id ∈ r.skipped ∨ (ruling.loss = .probeAndValue ∧ id = r.identityOf m value ∧ id ≠ nullObject)

/-- **Recording a value** brings the event of its fate to the log. -/
theorem recordValue_keeps (m : Moment) (probe : ProbeId) (value : Option Subject)
    (active : r.suppressed = false) :
    r.Logs (r.kept .append (.event (.ordinary m.stamp probe (r.identityOf m value)
        (r.fate m probe value).ruling.payload)))
      (r.recordValue m probe value) := by
  rw [recordValue_of_active m probe value active, ← draft_event]
  refine guarded_logs ?_
  exact (identified_logs _ m value).then_kept (meet_logs (r.fate m probe value))

theorem recordValue_probes (m : Moment) (probe : ProbeId) (value : Option Subject) :
    (r.recordValue m probe value).probes = r.probes := by
  cases suppressed : r.suppressed with
  | true => rw [recordValue_of_suppressed m probe value suppressed]
  | false =>
      rw [recordValue_of_active m probe value suppressed]
      show (meet _ m probe _ _).probes = _
      rw [meet_probes]
      cases value <;> rfl

/-- Recording a value comes to the ruling of its fate. -/
theorem recordValue_recorded (m : Moment) (probe : ProbeId) (value : Option Subject)
    (active : r.suppressed = false) :
    r.Recorded m probe value (r.fate m probe value).ruling (r.recordValue m probe value) := by
  have logs := recordValue_keeps m probe value active
  have submits := r.recordValue_submits m probe value
  rw [whenActive_of_active _ active, whenActive_of_active _ active] at submits
  have offers := offers_of_submits (by rw [draft_event]; exact logs) submits
  rw [draft_event] at offers
  refine ⟨logs.state (recordValue_probes m probe value), offers, ?_, fun p => ?_, fun id => ?_⟩
  · rw [identities_recordValue, active]
    rfl
  · rw [mem_recordable_recordValue, ← Fate.bars_iff, bars, active]
    rfl
  · rw [mem_skipped_recordValue, ← Fate.fails_iff, fails, active]
    rfl

/-- **A value is recorded as it is ruled**, and the rules make one ruling. While recording is not suppressed,
    one event is offered; it carries what the ruling says, and what is not serialized any more afterwards is
    what the ruling says is lost. -/
theorem recordValue_ruled (m : Moment) (probe : ProbeId) (value : Option Subject)
    (active : r.suppressed = false) :
    ∃ ruling, (∀ other, r.Rules probe (r.identityOf m value) value other ↔ other = ruling) ∧
      r.Recorded m probe value ruling (r.recordValue m probe value) ∧
      (r.codec = .json → value = none → r.Eligible probe nullObject →
        ruling.payload = some (Text.utf8 "null")) := by
  refine ⟨_, fun _ => rules_iff, recordValue_recorded m probe value active, ?_⟩
  rintro codec rfl eligible
  have encoded : r.codec.encode .null = .ok (Text.utf8 "null") := by
    rw [codec]
    rfl
  have absent : r.Rules probe (r.identityOf m none) none ⟨some (Text.utf8 "null"), .nothing⟩ :=
    .absent eligible encoded
  rw [← rules_iff.mp absent]

/-- A value whose code records at its own probe, and then panics. -/
def panickingValue : Subject :=
  .mk ⟨7, 0⟩ "app.Order" .plain (.call (.absent 1) (.done (.panic (some "stop"))))

/-- A recorder that serializes values at two probes. -/
def attentive : Recorder :=
  { withPolicy { builtinExclusions := false } (.ofCategories fun _ => true) .empty with
    recordable := FiniteSet.empty.insertAll [1, 2] }

theorem recordValue_ruled_panicking : attentive.suppressed = false ∧
    ∃ after, after = attentive.recordValue ⟨.empty, ⟨5, "main"⟩, 9⟩ 1 (some panickingValue) ∧
      after.sink.events = [.ordinary ⟨5, "main"⟩ 1 1
        (some (Payload.failure "serialization failed: panicked: stop"))] ∧
      after.stats.emitted = 1 ∧ after.stats.sinkFailures = 0 ∧
      1 ∉ after.recordable ∧ 2 ∈ after.recordable ∧ 1 ∈ after.skipped := by
  have active : attentive.suppressed = false := rfl
  obtain ⟨ruling, rules, recorded, -⟩ :=
    recordValue_ruled ⟨.empty, ⟨5, "main"⟩, 9⟩ 1 (some panickingValue) active
  have admits : ¬ attentive.Excludes panickingValue := by
    rw [excludes_iff]
    decide
  have rule : attentive.Rules 1 1 (some panickingValue)
      ⟨some (Payload.failure (panicError (some "stop")).message), .probeAndValue⟩ :=
    .failed ⟨rfl, rfl, by decide, by decide⟩ (by rintro _ ⟨⟩; exact admits) (.panic (.inl rfl) rfl)
  have message : (panicError (some "stop")).message = "serialization failed: panicked: stop" := by decide
  rw [message] at rule
  obtain rfl := (rules _).mp rule
  refine ⟨active, _, rfl, ?_, recorded.offers.emitted, recorded.offers.sinkFailures, ?_, ?_, ?_⟩
  · rw [Sink.events, recorded.offers.sink]
    rfl
  · exact fun h => ((recorded.recordable 1).mp h).2 (by decide) rfl
  · exact (recorded.recordable 2).mpr ⟨by decide, fun _ => by decide⟩
  · exact (recorded.skipped 1).mpr (.inr ⟨rfl, rfl, by decide⟩)

end Recorder
end ProbeRecorder
