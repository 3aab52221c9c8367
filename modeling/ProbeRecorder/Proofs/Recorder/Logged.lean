import ProbeRecorder.Recorder.Producer
import ProbeRecorder.Recorder.Registration

/-!
# `ProbeRecorder.Proofs.Recorder.Logged` — what each call brings to the log

A call of the recorder hands the sink at most one entry. `Recorder.Logs r es s` says that `s` is `r` after
the entries `es` have come to the log, and that everything which decides what later calls write is still
the same. There is one lemma for each call; no later proof opens one.

## Contents
- **Keeping.** `Recorder.kept`, an entry if the sink takes it.
- **Frame.** `Recorder.Logs`, which composes.
- **Emission.** The events that observations lead to.
- **Suppression.** Serialization code records nothing (`Script.run_of_suppressed`).
- **Calls.** Scalars, values, calls of producers, completions, registrations.
- **Polls.** `Producer.advance_logs`, with `Recorder.reported` and `ProducerKind.closes`.
-/

namespace ProbeRecorder

namespace Recorder

variable {r s t : Recorder} {es fs : List Entry}

/-! ## Keeping -/

/-- The entry, if there is a sink and it does not refuse the call that brings it. -/
def kept (r : Recorder) (call : SinkCall) (e : Entry) : List Entry :=
  if r.discards then [] else if (r.sink.refusal call).isSome then [] else [e]

theorem mem_kept {call : SinkCall} {e f : Entry} (h : f ∈ r.kept call e) : f = e := by
  unfold kept at h
  split at h
  · cases h
  · split at h
    · cases h
    · exact List.mem_singleton.mp h

theorem kept_of_accepting {call : SinkCall} (e : Entry) (hd : r.discards = false)
    (hr : r.sink.refusal call = none) : r.kept call e = [e] := by
  unfold kept
  rw [hd, hr]
  rfl

/-! ## Frame -/

/-- **The log grew by `es`**, and what decides about later entries is unchanged. -/
structure Logs (r : Recorder) (es : List Entry) (s : Recorder) : Prop where
  log : s.sink.log = r.sink.log ++ es
  refusal : s.sink.refusal = r.sink.refusal
  discards : s.discards = r.discards
  codec : s.codec = r.codec
  mode : s.mode = r.mode
  policy : s.policy = r.policy
  exclusions : s.exclusions = r.exclusions
  classes : s.classes = r.classes
  anchors : s.anchors = r.anchors
  clock : s.clock = r.clock
  suppressed : s.suppressed = r.suppressed

/-- Identities, the sets of probes and values, the descriptors and the statistics are not part of the
    frame. -/
theorem logs_nil (h : s = { r with
      identities := s.identities, recordable := s.recordable, skipped := s.skipped
      probes := s.probes, stats := s.stats }) : r.Logs [] s := by
  rw [h]
  exact ⟨(List.append_nil _).symm, rfl, rfl, rfl, rfl, rfl, rfl, rfl, rfl, rfl, rfl⟩

theorem Logs.refl (r : Recorder) : r.Logs [] r := logs_nil rfl

theorem Logs.trans (h : r.Logs es s) (k : s.Logs fs t) : r.Logs (es ++ fs) t where
  log := by rw [k.log, h.log, List.append_assoc]
  refusal := k.refusal.trans h.refusal
  discards := k.discards.trans h.discards
  codec := k.codec.trans h.codec
  mode := k.mode.trans h.mode
  policy := k.policy.trans h.policy
  exclusions := k.exclusions.trans h.exclusions
  classes := k.classes.trans h.classes
  anchors := k.anchors.trans h.anchors
  clock := k.clock.trans h.clock
  suppressed := k.suppressed.trans h.suppressed

theorem Logs.append_nil (h : r.Logs es s) (k : s.Logs [] t) : r.Logs es t := by
  have := h.trans k
  rwa [List.append_nil] at this

/-- What the sink takes does not change with the log. -/
theorem Logs.kept_eq (h : r.Logs es s) (call : SinkCall) (e : Entry) : s.kept call e = r.kept call e := by
  unfold kept
  rw [h.discards, h.refusal]

/-- Quiet work, and then an entry that the sink may take. -/
theorem Logs.then_kept {call : SinkCall} {e : Entry} (h : r.Logs [] s) (k : s.Logs (s.kept call e) t) :
    r.Logs (r.kept call e) t := by
  rw [h.kept_eq] at k
  exact h.trans k

/-- Suppressing recording while work is done is no part of what the work leaves behind. -/
theorem guarded_logs {f : Recorder → Recorder}
    (h : { r with suppressed := true }.Logs es (f { r with suppressed := true })) :
    r.Logs es (r.guarded f) :=
  ⟨h.log, h.refusal, h.discards, h.codec, h.mode, h.policy, h.exclusions, h.classes, h.anchors,
    h.clock, rfl⟩

/-! ## Emission -/

theorem emit_logs (r : Recorder) (e : Event) :
    r.Logs (r.kept (Sink.callFor e) (.event e)) (r.emit e).2 := by
  unfold emit kept
  by_cases hd : r.discards = true
  · rw [if_pos hd, if_pos hd]
    exact logs_nil rfl
  · rw [if_neg hd, if_neg hd]
    unfold Sink.append Sink.accept
    cases hr : r.sink.refusal (Sink.callFor e) with
    | some error =>
        simp only [Option.isSome_some, if_true]
        exact logs_nil rfl
    | none =>
        simp only [Option.isSome_none, Bool.false_eq_true, if_false]
        exact ⟨rfl, rfl, rfl, rfl, rfl, rfl, rfl, rfl, rfl, rfl, rfl⟩

/-- The answer to an event may be counted. -/
theorem emit_counted_logs (r : Recorder) (e : Event) (count : Recorder → RecorderStats) :
    r.Logs (r.kept (Sink.callFor e) (.event e))
      (match r.emit e with
        | (true, s) => { s with stats := count s }
        | (false, s) => s) := by
  have h := r.emit_logs e
  generalize r.emit e = answer at h ⊢
  obtain ⟨accepted, s⟩ := answer
  cases accepted with
  | false => exact h
  | true => exact h.append_nil (logs_nil rfl)

theorem emitIdentity_logs (r : Recorder) (m : Moment) (probe : ProbeId) (object : ObjectId) :
    r.Logs (r.kept .append (.event (.ordinary m.stamp probe object none)))
      (r.emitIdentity m probe object) :=
  r.emit_counted_logs (.ordinary m.stamp probe object none) _

theorem emitSerialized_logs (r : Recorder) (m : Moment) (probe : ProbeId) (object : ObjectId)
    (payload : Bytes) :
    r.Logs (r.kept .append (.event (.ordinary m.stamp probe object (some payload))))
      (r.emitSerialized m probe object payload) :=
  r.emit_counted_logs (.ordinary m.stamp probe object (some payload)) _

theorem excludeProbe_logs (r : Recorder) (probe : ProbeId) : r.Logs [] (r.excludeProbe probe) := by
  unfold excludeProbe
  split
  · exact logs_nil rfl
  · exact Logs.refl r

theorem fail_logs (r : Recorder) (m : Moment) (probe : ProbeId) (object : ObjectId) (e : RecorderError) :
    r.Logs (r.kept .append (.event (.ordinary m.stamp probe object (some (Payload.failure e.message)))))
      (r.fail m probe object e) := by
  have quiet : r.Logs [] (r.giveUp probe object).countSerializationFailure := logs_nil rfl
  exact quiet.then_kept ((r.giveUp probe object).countSerializationFailure.emit_logs
    (.ordinary m.stamp probe object (some (Payload.failure e.message))))

/-- The payload of the event that an attempt to serialize leads to. -/
def deliveredPayload : Except RecorderError Bytes → Bytes
  | .ok payload => payload
  | .error e => Payload.failure e.message

theorem deliver_logs (r : Recorder) (m : Moment) (probe : ProbeId) (object : ObjectId)
    (attempt : Except RecorderError Bytes) :
    r.Logs (r.kept .append (.event (.ordinary m.stamp probe object (some (deliveredPayload attempt)))))
      (r.deliver m probe object attempt) := by
  cases attempt with
  | ok payload => exact r.emitSerialized_logs m probe object payload
  | error e => exact r.fail_logs m probe object e

end Recorder

/-! ## Suppression -/

/-- **A call from inside the recorder's own work records nothing.** -/
theorem NestedCall.perform_of_suppressed (m : Moment) (call : NestedCall) {r : Recorder}
    (h : r.suppressed = true) : call.perform m r = r := by
  cases call with
  | absent probe => simp only [perform, Recorder.recordAbsent, Recorder.unlessSuppressed, h, if_true]
  | value probe subject =>
      cases subject with
      | mk a typeName shape script =>
          simp only [perform, Subject.record, Recorder.unlessSuppressed, h, if_true]
  | scalar probe s => simp only [perform, Recorder.recordScalar, Recorder.unlessSuppressed, h, if_true]
  | producer probe typeName => simp only [perform, Recorder.openCall, h, if_true]

/-- **Serialization code records nothing**, however many calls it makes. -/
theorem Script.run_of_suppressed (m : Moment) :
    ∀ (script : Script) {r : Recorder}, r.suppressed = true → script.run m r = r
  | .done _, _, _ => by rw [run]
  | .call nested rest, r, h => by
      rw [run, nested.perform_of_suppressed m h]
      exact rest.run_of_suppressed m h

namespace Recorder

variable {r s t : Recorder}

/-! ## Scalars and values -/

/-- Nothing, or one event that starts no call. -/
def AtMostOrdinary (es : List Entry) : Prop :=
  ∀ e ∈ es, ∃ stamp probe value payload, e = .event (.ordinary stamp probe value payload)

theorem atMostOrdinary_nil : AtMostOrdinary [] := fun _ h => nomatch h

theorem atMostOrdinary_kept (r : Recorder) (call : SinkCall) (stamp : Stamp) (probe : ProbeId)
    (value : Int64) (payload : Option Bytes) :
    AtMostOrdinary (r.kept call (.event (.ordinary stamp probe value payload))) :=
  fun _ h => ⟨stamp, probe, value, payload, mem_kept h⟩

theorem unlessSuppressed_logs {work : Recorder → Recorder}
    (h : ∀ s : Recorder, s.suppressed = true → ∃ es, s.Logs es (work s) ∧ AtMostOrdinary es) :
    ∃ es, r.Logs es (r.unlessSuppressed work) ∧ AtMostOrdinary es := by
  unfold unlessSuppressed
  by_cases hs : r.suppressed = true
  · rw [if_pos hs]
    exact ⟨[], Logs.refl r, atMostOrdinary_nil⟩
  · rw [if_neg hs]
    obtain ⟨es, hl, ho⟩ := h { r with suppressed := true } rfl
    exact ⟨es, guarded_logs hl, ho⟩

theorem recordScalar_logs (r : Recorder) (m : Moment) (probe : ProbeId) (value : Scalar) :
    ∃ es, r.Logs es (r.recordScalar m probe value) ∧ AtMostOrdinary es :=
  unlessSuppressed_logs fun s _ => ⟨_, s.emit_logs _, s.atMostOrdinary_kept _ _ _ _ _⟩

theorem recordAbsent_logs (r : Recorder) (m : Moment) (probe : ProbeId) :
    ∃ es, r.Logs es (r.recordAbsent m probe) ∧ AtMostOrdinary es := by
  apply unlessSuppressed_logs
  intro s _
  split
  · exact ⟨_, s.deliver_logs _ _ _ _, s.atMostOrdinary_kept _ _ _ _ _⟩
  · exact ⟨_, s.emitIdentity_logs _ _ _, s.atMostOrdinary_kept _ _ _ _ _⟩

theorem observe_logs (r : Recorder) (m : Moment) (probe : ProbeId) (a : Allocation) (typeName : String)
    (shape : Shape) (serialize : Recorder → Recorder) (outcome : Outcome) (h : r.suppressed = true)
    (quiet : ∀ s : Recorder, s.suppressed = true → serialize s = s) :
    ∃ es, r.Logs es (r.observe m probe a typeName shape serialize outcome) ∧ AtMostOrdinary es := by
  unfold observe
  generalize r.identities.identify m.heap a typeName = identified
  obtain ⟨object, identities⟩ := identified
  simp only
  have seen : r.Logs [] { r with identities := identities } := logs_nil rfl
  -- The code of the subject runs while recording is suppressed: what it records comes to nothing.
  have hq : serialize { r with identities := identities } = { r with identities := identities } :=
    quiet _ h
  split
  · exact ⟨_, seen.then_kept (emitIdentity_logs _ m probe object), r.atMostOrdinary_kept _ _ _ _ _⟩
  · split
    · have excluded := seen.trans (excludeProbe_logs { r with identities := identities } probe)
      exact ⟨_, excluded.then_kept (emitIdentity_logs _ m probe object),
        r.atMostOrdinary_kept _ _ _ _ _⟩
    · split
      · exact ⟨_, seen.then_kept (deliver_logs _ m probe object _), r.atMostOrdinary_kept _ _ _ _ _⟩
      · rw [hq]
        exact ⟨_, seen.then_kept (deliver_logs _ m probe object _), r.atMostOrdinary_kept _ _ _ _ _⟩

/-- **Recording a value** brings at most one event, which starts no call. -/
theorem recordValue_logs (r : Recorder) (m : Moment) (probe : ProbeId) (value : Option Subject) :
    ∃ es, r.Logs es (r.recordValue m probe value) ∧ AtMostOrdinary es := by
  cases value with
  | none => exact r.recordAbsent_logs m probe
  | some subject =>
      cases subject with
      | mk a typeName shape script =>
          simp only [recordValue, Subject.record]
          apply unlessSuppressed_logs
          intro s hs
          exact s.observe_logs m probe a typeName shape _ _ hs fun _ h => script.run_of_suppressed m h

/-! ## Calls of producers -/

/-- **The outcomes of a producer will be written**: recording is not suppressed, its identity and probe are
    eligible, and its type is not excluded. -/
def opens (r : Recorder) (probe : ProbeId) (typeName : String) : Bool :=
  !r.suppressed && r.isEligible probe r.identities.nextId && !r.exclusions.isExcluded typeName

theorem openCall_of_suppressed (m : Moment) (probe : ProbeId) (typeName : String)
    (h : r.suppressed = true) : r.openCall m probe typeName = (none, r) := by
  unfold openCall
  rw [if_pos h]

/-- A producer whose outcomes will not be written is only identified. -/
theorem openCall_of_not_opens (m : Moment) (probe : ProbeId) (typeName : String)
    (h : r.suppressed = false) (hopens : r.opens probe typeName = false) :
    (r.openCall m probe typeName).1 = none ∧
      r.Logs (r.kept .append (.event (.ordinary m.stamp probe r.identities.nextId none)))
        (r.openCall m probe typeName).2 := by
  unfold openCall startCall IdentityMap.issue
  rw [if_neg (by rw [h]; exact Bool.false_ne_true)]
  simp only
  generalize hid : ({ r.identities with nextId := r.identities.nextId + 1 } : IdentityMap) = identities
  have seen : { r with suppressed := true }.Logs []
      { r with identities := identities, suppressed := true } := logs_nil rfl
  -- Eligibility looks at neither identities nor suppression; it is asked for before the type is.
  have heligible : ({ r with identities := identities, suppressed := true } : Recorder).isEligible probe
      r.identities.nextId = r.isEligible probe r.identities.nextId := rfl
  rw [heligible]
  cases he : r.isEligible probe r.identities.nextId with
  | false =>
      refine ⟨rfl, guarded_logs (f := fun _ => _) ?_⟩
      exact seen.then_kept (emitIdentity_logs _ m probe _)
  | true =>
      have hx : r.exclusions.isExcluded typeName = true := by
        unfold opens at hopens
        rw [h, he] at hopens
        simpa using hopens
      rw [hx]
      refine ⟨rfl, guarded_logs (f := fun _ => _) ?_⟩
      have excluded := seen.trans
        (excludeProbe_logs { r with identities := identities, suppressed := true } probe)
      exact excluded.then_kept (emitIdentity_logs _ m probe _)

/-- **A call is opened**: its correlation id is taken from the clock, and its anchor is written. -/
theorem openCall_of_opens (m : Moment) (probe : ProbeId) (typeName : String)
    (hopens : r.opens probe typeName = true) :
    (r.openCall m probe typeName).1 = some ⟨r.clock.next m.reading, r.anchors.anchorOf probe⟩ ∧
      { r with clock := r.clock.advance m.reading }.Logs
        (r.kept .anchor
          (.event (.anchor m.stamp probe r.identities.nextId (r.clock.next m.reading))))
        (r.openCall m probe typeName).2 := by
  unfold opens at hopens
  simp only [Bool.and_eq_true, Bool.not_eq_true'] at hopens
  obtain ⟨⟨h, he⟩, hx⟩ := hopens
  unfold openCall startCall anchorCall IdentityMap.issue
  rw [if_neg (by rw [h]; exact Bool.false_ne_true)]
  simp only
  generalize hid : ({ r.identities with nextId := r.identities.nextId + 1 } : IdentityMap) = identities
  have heligible : ({ r with identities := identities, suppressed := true } : Recorder).isEligible probe
      r.identities.nextId = true := he
  rw [heligible]
  simp only [Bool.not_true, Bool.false_eq_true, if_false, hx]
  have written := emit_counted_logs
    { r with identities := identities, clock := r.clock.advance m.reading, suppressed := true }
    (.anchor m.stamp probe r.identities.nextId (r.clock.next m.reading))
    fun s => { s.stats with asyncAnchors := s.stats.asyncAnchors + 1 }
  -- The call is opened whether or not the sink took the anchor.
  generalize emit _ _ = answer at written ⊢
  obtain ⟨accepted, s⟩ := answer
  cases accepted <;>
    exact ⟨rfl, written.log, written.refusal, written.discards, written.codec, written.mode,
      written.policy, written.exclusions, written.classes, written.anchors, written.clock, rfl⟩

end Recorder

/-! ## Completions -/

/-- **The payload of an outcome**; a value that cannot be serialized leaves a diagnostic. -/
def Codec.outcomeBytes (codec : Codec) : CallOutcome → Bytes
  | .value script =>
    match script.outcome.structure.bind codec.encode with
    | .ok payload => payload
    | .error e => Payload.failure e.message
  | .error e => Payload.asyncError e.typeName e.text

/-- **The completion event** of an outcome. -/
def OpenCall.completion (call : OpenCall) (codec : Codec) (stamp : Stamp) (outcome : CallOutcome) : Event :=
  .ordinary stamp call.anchor call.correlation (some (codec.outcomeBytes outcome))

namespace Recorder

variable {r s t : Recorder}

theorem outcomePayload_logs (m : Moment) (outcome : CallOutcome) (h : r.suppressed = true) :
    (outcomePayload m outcome r).1 = r.codec.outcomeBytes outcome ∧
      r.Logs [] (outcomePayload m outcome r).2 := by
  cases outcome with
  | error e =>
      simp only [outcomePayload, Codec.outcomeBytes]
      exact ⟨trivial, Logs.refl r⟩
  | value script =>
      simp only [outcomePayload, runOutcome, script.run_of_suppressed m h, Codec.outcomeBytes]
      cases script.outcome.structure.bind r.codec.encode with
      | ok payload => exact ⟨rfl, Logs.refl r⟩
      | error e =>
          refine ⟨?_, logs_nil rfl⟩
          dsimp only

/-- **Writing an outcome** brings exactly its completion event, also while recording is suppressed. -/
theorem writeCompletion_logs (r : Recorder) (m : Moment) (call : OpenCall) (outcome : CallOutcome) :
    r.Logs (r.kept .append (.event (call.completion r.codec m.stamp outcome)))
      (r.writeCompletion m call outcome) := by
  -- The guard is set here whatever it was before, so a completion is written in any case.
  have h := outcomePayload_logs (r := { r with suppressed := true }) m outcome rfl
  unfold writeCompletion OpenCall.completion
  refine guarded_logs ?_
  generalize outcomePayload m outcome { r with suppressed := true } = made at h ⊢
  generalize r.codec.outcomeBytes outcome = expected at h ⊢
  obtain ⟨payload, s⟩ := made
  obtain ⟨hp, quiet⟩ := h
  subst hp
  exact quiet.then_kept (s.emit_counted_logs (.ordinary m.stamp call.anchor call.correlation (some payload))
    fun s => { s.stats with asyncCompletions := s.stats.asyncCompletions + 1 })

/-! ## Registrations -/

/-- An empty batch, and a class known already, change nothing. -/
theorem registerBatch_of_known (b : WeaveBatch) (h : b.anchor? = none ∨ b.classId ∈ r.classes) :
    r.registerBatch b = (.ok (), r) := by
  unfold registerBatch
  cases ha : b.anchor? with
  | none => rfl
  | some anchor =>
      have hk : b.classId ∈ r.classes := by
        rcases h with h | h
        · rw [ha] at h
          cases h
        · exact h
      simp only [hk, if_true]

/-- **A new class** is noted in the anchor table and in the log. -/
theorem registerBatch_of_new (b : WeaveBatch) {anchor : ProbeId} (ha : b.anchor? = some anchor)
    (hn : b.classId ∉ r.classes) :
    { r with
      anchors := r.anchors.register anchor b.probeIds
      classes := (r.registerBatch b).2.classes }.Logs
      (r.kept .register (.weave b.classId b.probeIds)) (r.registerBatch b).2 := by
  unfold registerBatch announce kept
  simp only [ha, hn, if_false]
  have hd : (r.adopt b anchor).discards = r.discards := rfl
  rw [hd]
  by_cases h : r.discards = true
  · rw [if_pos h, if_pos h]
    exact logs_nil rfl
  · rw [if_neg h, if_neg h]
    have hs : (r.adopt b anchor).sink = r.sink := rfl
    unfold Sink.register Sink.accept
    rw [hs]
    cases hr : r.sink.refusal .register with
    | some error =>
        simp only [Option.isSome_some, if_true]
        exact logs_nil rfl
    | none =>
        simp only [Option.isSome_none, Bool.false_eq_true, if_false]
        exact ⟨rfl, rfl, rfl, rfl, rfl, rfl, rfl, rfl, rfl, rfl, rfl⟩

/-- Classes known stay known, and a batch that is not refused makes its class known. -/
theorem mem_classes_registerBatch (b : WeaveBatch) {c : ClassId}
    (h : c ∈ r.classes ∨ c = b.classId ∧ b.anchor? ≠ none ∧ r.sink.refusal .register = none) :
    c ∈ (r.registerBatch b).2.classes := by
  unfold registerBatch
  cases ha : b.anchor? with
  | none =>
      rcases h with h | ⟨_, hne, _⟩
      · exact h
      · exact absurd ha hne
  | some anchor =>
      simp only
      by_cases hk : b.classId ∈ r.classes
      · rw [if_pos hk]
        rcases h with h | ⟨rfl, _⟩
        · exact h
        · exact hk
      · rw [if_neg hk]
        have hadopt : c ∈ (r.adopt b anchor).classes := by
          unfold adopt
          rw [FiniteSet.mem_insert]
          rcases h with h | ⟨h, _⟩
          · exact .inr h
          · exact .inl h
        unfold announce Sink.register Sink.accept
        split
        · exact hadopt
        · have hs : (r.adopt b anchor).sink = r.sink := rfl
          rw [hs]
          cases hr : r.sink.refusal .register with
          | none => exact hadopt
          | some error =>
              -- Refused: the class is forgotten, but `c` is another one.
              rw [FiniteSet.mem_remove]
              refine ⟨?_, hadopt⟩
              rcases h with h | ⟨_, _, hn⟩
              · intro hc
                exact hk (hc ▸ h)
              · rw [hr] at hn
                cases hn

theorem markRecordable_logs (r : Recorder) (probes : List ProbeId) :
    r.Logs [] (r.markRecordable probes) := logs_nil rfl

theorem latestInstance_logs (r : Recorder) (heap : Heap) (typeName : String) :
    r.Logs [] (r.latestInstance heap typeName).2 := logs_nil rfl

/-! ## Polls -/

/-- **What a poll brings**: the completion event of an outcome, while the call is open. -/
def reported (r : Recorder) (stamp : Stamp) : Option OpenCall → Polled → List Entry
  | some call, .ready outcome => r.kept .append (.event (call.completion r.codec stamp outcome))
  | _, _ => []

theorem reported_none (r : Recorder) (stamp : Stamp) (answer : Polled) :
    r.reported stamp none answer = [] := rfl

end Recorder

/-- The answer after which nothing is written any more: the outcome of a future, the end of a stream. -/
def ProducerKind.closes : ProducerKind → Polled → Bool
  | .single, .ready _ => true
  | .many, .ended => true
  | _, _ => false

theorem Producer.next_call (p : Producer) : p.next.2.call = p.call := by
  unfold next
  split <;> rfl

/-- Without a call, an outcome is not written. -/
theorem Producer.report_of_closed {p : Producer} (closed : p.call = none) {m : Moment} {outcome : CallOutcome}
    {r : Recorder} : p.report m outcome r = r := by
  unfold report
  rw [closed]

/-- **Passing on an answer** writes its outcome under the producer's call, and closes the call in time. -/
theorem Producer.advance_logs (p : Producer) (m : Moment) (r : Recorder) :
    r.Logs (r.reported m.stamp p.call (p.advance m r).1) (p.advance m r).2.2 ∧
      (p.advance m r).2.1.kind = p.kind ∧
      (p.advance m r).2.1.call = if p.kind.closes (p.advance m r).1 then none else p.call := by
  have report : ∀ (q : Producer) outcome, q.call = p.call →
      r.Logs (r.reported m.stamp p.call (.ready outcome)) (q.report m outcome r) := by
    intro q outcome hq
    unfold report
    rw [hq]
    cases p.call with
    | none => exact Recorder.Logs.refl r
    | some call => exact r.writeCompletion_logs m call outcome
  have hkind : p.next.2.kind = p.kind := by
    unfold next
    split <;> rfl
  have hcall := p.next_call
  have silent : ∀ answer, (∀ outcome, answer ≠ .ready outcome) →
      r.Logs (r.reported m.stamp p.call answer) r := by
    intro answer h
    have he : r.reported m.stamp p.call answer = [] := by
      cases answer with
      | ready outcome => exact absurd rfl (h outcome)
      | pending => cases p.call <;> rfl
      | ended => cases p.call <;> rfl
      | finished => cases p.call <;> rfl
    rw [he]
    exact Recorder.Logs.refl r
  -- Futures and streams differ only in the answer that closes their call.
  unfold advance
  generalize p.next = found at hkind hcall ⊢
  obtain ⟨answer, q⟩ := found
  simp only at hkind hcall
  cases answer with
  | pending =>
      refine ⟨silent _ fun _ h => (nomatch h), hkind, ?_⟩
      cases p.kind <;> exact hcall
  | ended =>
      cases hk : p.kind with
      | single => exact ⟨silent _ fun _ h => (nomatch h), hkind.trans hk, hcall⟩
      | many => exact ⟨silent _ fun _ h => (nomatch h), hkind.trans hk, rfl⟩
  | ready outcome =>
      cases hk : p.kind with
      | single => exact ⟨report q outcome hcall, hkind.trans hk, rfl⟩
      | many => exact ⟨report q outcome hcall, hkind.trans hk, hcall⟩

end ProbeRecorder
