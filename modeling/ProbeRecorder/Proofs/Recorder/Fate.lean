import ProbeRecorder.Proofs.Recorder.Logged

/-!
# `ProbeRecorder.Proofs.Recorder.Fate` — what becomes of a recorded value

Whether a value is serialized is decided before any of its code runs: by the recorder, the probe, its
identity and its type. Only an excluded type and a failure change what is decided later.

## Contents
- **Fates.** `Fate`, with `Recorder.fate` of a value and the identity it is recorded under.
- **Values.** A value is identified and meets its fate (`Recorder.recordValue_of_active`); `Recorder.Ignores`,
  recording a value without its code.
- **Sets.** What each call does to the recordable probes, the skipped values and the identities.
-/

namespace ProbeRecorder

/-! ## Fates -/

/-- **What becomes of a value** that is recorded. -/
inductive Fate where
  /-- Its identity is written, and nothing else. -/
  | identified
  /-- Values of its type or shape are not serialized. -/
  | excluded
  | tried (result : Except RecorderError Bytes)

namespace Fate

/-- Serialization failed. -/
def fails : Fate → Bool
  | tried (.error _) => true
  | _ => false

/-- Values at the probe are not serialized any more. -/
def bars : Fate → Bool
  | excluded => true
  | fate => fate.fails

end Fate

namespace Recorder

variable {r s : Recorder}

/-- **The identity** under which a value is recorded. -/
def identityOf (r : Recorder) (m : Moment) : Option Subject → ObjectId
  | none => nullObject
  | some s => (r.identities.identify m.heap s.allocation s.typeName).1

/-- The recorder once it knows who a value is. -/
def identified (r : Recorder) (m : Moment) : Option Subject → Recorder
  | none => r
  | some s => { r with identities := (r.identities.identify m.heap s.allocation s.typeName).2 }

/-- The fate of a value that is eligible. -/
def attempt (r : Recorder) : Option Subject → Fate
  | none => .tried (r.codec.encode .null)
  | some s =>
    if s.shape.isOpaque || r.exclusions.isExcluded s.typeName then .excluded
    else .tried (payloadOf r.codec s.shape s.script.outcome)

/-- **The fate of a value**, unless recording is suppressed. -/
def fate (r : Recorder) (m : Moment) (probe : ProbeId) (value : Option Subject) : Fate :=
  if r.isEligible probe (r.identityOf m value) then r.attempt value else .identified

/-- What a fate comes to. -/
def meet (r : Recorder) (m : Moment) (probe : ProbeId) (object : ObjectId) : Fate → Recorder
  | .identified => r.emitIdentity m probe object
  | .excluded => (r.excludeProbe probe).emitIdentity m probe object
  | .tried result => r.deliver m probe object result

/-! ## Values -/

/-- A value that is not eligible is only identified. -/
theorem observe_of_not_eligible (m : Moment) (probe : ProbeId) (subject : Subject)
    (h : s.isEligible probe (s.identityOf m (some subject)) = false) (shape : Shape)
    (serialize : Recorder → Recorder) (outcome : Outcome) :
    s.observe m probe subject.allocation subject.typeName shape serialize outcome =
      (s.identified m (some subject)).emitIdentity m probe (s.identityOf m (some subject)) := by
  show (if !s.isEligible probe (s.identityOf m (some subject)) then _ else _) = _
  rw [h]
  rfl

/-- Observing a value, whose code records nothing. -/
theorem observe_eq (m : Moment) (probe : ProbeId) (subject : Subject) (hs : s.suppressed = true) :
    s.observe m probe subject.allocation subject.typeName subject.shape
        (fun t => subject.script.run m t) subject.script.outcome =
      (s.identified m (some subject)).meet m probe (s.identityOf m (some subject))
        (s.fate m probe (some subject)) := by
  unfold fate
  cases he : s.isEligible probe (s.identityOf m (some subject)) with
  | false => exact observe_of_not_eligible m probe subject he _ _ _
  | true =>
      have quiet : subject.script.run m (s.identified m (some subject)) = s.identified m (some subject) :=
        subject.script.run_of_suppressed m hs
      simp only [if_true, attempt]
      -- Only bytes are delivered without running any code, and running it changes nothing.
      cases shape : subject.shape with
      | bytes content =>
          show (if !s.isEligible probe (s.identityOf m (some subject)) then _
            else if (Shape.bytes content).isOpaque || s.exclusions.isExcluded subject.typeName then _
            else (s.identified m (some subject)).deliver m probe _ _) = _
          rw [he]
          simp only [Bool.not_true, Bool.false_eq_true, if_false]
          split <;> rfl
      | _ =>
          show (if !s.isEligible probe (s.identityOf m (some subject)) then _
            else if Shape.isOpaque _ || s.exclusions.isExcluded subject.typeName then _
            else (subject.script.run m (s.identified m (some subject))).deliver m probe _ _) = _
          rw [he, quiet]
          simp only [Bool.not_true, Bool.false_eq_true, if_false]
          split <;> rfl

/-- Identifying a value writes nothing. -/
theorem identified_logs (r : Recorder) (m : Moment) (value : Option Subject) :
    r.Logs [] (r.identified m value) := by
  cases value <;> exact logs_nil rfl

/-- **Recording a value**: it is identified, and meets its fate. -/
theorem recordValue_of_active (m : Moment) (probe : ProbeId) (value : Option Subject)
    (hs : r.suppressed = false) :
    r.recordValue m probe value =
      r.guarded fun s => (s.identified m value).meet m probe (s.identityOf m value) (s.fate m probe value) := by
  cases value with
  | none =>
      simp only [recordValue, recordAbsent, unlessSuppressed, hs, Bool.false_eq_true, if_false]
      refine congrArg r.guarded (funext fun s => ?_)
      show _ = s.meet m probe nullObject (if s.isEligible probe nullObject then _ else _)
      split <;> rfl
  | some subject =>
      obtain ⟨a, typeName, shape, script⟩ := subject
      simp only [recordValue, Subject.record, unlessSuppressed, hs, Bool.false_eq_true, if_false]
      unfold guarded
      have observed := observe_eq (s := { r with suppressed := true }) m probe (.mk a typeName shape script) rfl
      exact congrArg (fun t : Recorder => { t with suppressed := r.suppressed }) observed

theorem recordValue_of_suppressed (m : Moment) (probe : ProbeId) (value : Option Subject)
    (hs : r.suppressed = true) : r.recordValue m probe value = r := by
  cases value with
  | none => simp [recordValue, recordAbsent, unlessSuppressed, hs]
  | some subject =>
      obtain ⟨a, typeName, shape, script⟩ := subject
      simp [recordValue, Subject.record, unlessSuppressed, hs]

/-- **The value's code is not run**, whatever it would do: recording the value writes its identity. -/
def Ignores (r : Recorder) (m : Moment) (probe : ProbeId) (subject : Subject) : Prop :=
  ∀ (shape : Shape) (serialize : Recorder → Recorder) (outcome : Outcome),
    { r with suppressed := true }.observe m probe subject.allocation subject.typeName shape serialize outcome =
      ({ r with suppressed := true }.identified m (some subject)).emitIdentity m probe
        (r.identityOf m (some subject))

theorem ignores_of_not_eligible {m : Moment} {probe : ProbeId} {subject : Subject}
    (h : r.isEligible probe (r.identityOf m (some subject)) = false) : r.Ignores m probe subject :=
  observe_of_not_eligible m probe subject (s := { r with suppressed := true }) h

/-- Nothing, or an event that only identifies a value. -/
def WithoutPayload (es : List Entry) : Prop :=
  ∀ e ∈ es, ∃ stamp probe object, e = .event (.ordinary stamp probe object none)

/-- A value that is not eligible leaves no payload in the log. -/
theorem recordValue_logs_of_not_eligible (m : Moment) (probe : ProbeId) (value : Option Subject)
    (h : r.isEligible probe (r.identityOf m value) = false) :
    ∃ es, r.Logs es (r.recordValue m probe value) ∧ WithoutPayload es := by
  cases hs : r.suppressed with
  | true =>
      rw [recordValue_of_suppressed m probe value hs]
      exact ⟨[], Logs.refl r, fun _ he => nomatch he⟩
  | false =>
      rw [recordValue_of_active m probe value hs]
      refine ⟨r.kept .append (.event (.ordinary m.stamp probe (r.identityOf m value) none)),
        guarded_logs ?_, fun e he => ⟨m.stamp, probe, r.identityOf m value, mem_kept he⟩⟩
      have hfate : { r with suppressed := true }.fate m probe value = .identified := by
        unfold fate
        exact if_neg (by rw [Bool.not_eq_true]; exact h)
      rw [hfate]
      exact (identified_logs _ m value).then_kept (emitIdentity_logs _ m probe _)

/-! ## Sets -/

/-- **Nothing is decided differently**: probes, skipped values and identities are as before. -/
structure SameSets (r s : Recorder) : Prop where
  recordable : s.recordable = r.recordable
  skipped : s.skipped = r.skipped
  identities : s.identities = r.identities

theorem SameSets.refl (r : Recorder) : r.SameSets r := ⟨rfl, rfl, rfl⟩

theorem SameSets.trans {t : Recorder} (h : r.SameSets s) (k : s.SameSets t) : r.SameSets t :=
  ⟨k.recordable.trans h.recordable, k.skipped.trans h.skipped, k.identities.trans h.identities⟩

/-- Suppressing recording while work is done decides nothing either. -/
theorem guarded_same {f : Recorder → Recorder}
    (h : { r with suppressed := true }.SameSets (f { r with suppressed := true })) :
    r.SameSets (r.guarded f) :=
  ⟨h.recordable, h.skipped, h.identities⟩

/-! ### Events -/

theorem emit_same (r : Recorder) (e : Event) : r.SameSets (r.emit e).2 := by
  unfold emit
  split
  · exact ⟨rfl, rfl, rfl⟩
  · split <;> exact ⟨rfl, rfl, rfl⟩

/-- The answer to an event may be counted. -/
theorem emit_counted_same (r : Recorder) (e : Event) (count : Recorder → RecorderStats) :
    r.SameSets (match r.emit e with
      | (true, s) => { s with stats := count s }
      | (false, s) => s) := by
  have h := r.emit_same e
  generalize r.emit e = answer at h ⊢
  obtain ⟨accepted, s⟩ := answer
  cases accepted with
  | false => exact h
  | true => exact ⟨h.recordable, h.skipped, h.identities⟩

theorem emitIdentity_same (r : Recorder) (m : Moment) (probe : ProbeId) (object : ObjectId) :
    r.SameSets (r.emitIdentity m probe object) :=
  r.emit_counted_same _ _

theorem emitSerialized_same (r : Recorder) (m : Moment) (probe : ProbeId) (object : ObjectId)
    (payload : Bytes) : r.SameSets (r.emitSerialized m probe object payload) :=
  r.emit_counted_same _ _

theorem recordScalar_same (r : Recorder) (m : Moment) (probe : ProbeId) (value : Scalar) :
    r.SameSets (r.recordScalar m probe value) := by
  unfold recordScalar unlessSuppressed
  split
  · exact SameSets.refl r
  · exact guarded_same ({ r with suppressed := true }.emit_same _)

theorem excludeProbe_same (r : Recorder) (probe : ProbeId) :
    (r.excludeProbe probe).skipped = r.skipped ∧ (r.excludeProbe probe).identities = r.identities := by
  unfold excludeProbe
  split <;> exact ⟨rfl, rfl⟩

theorem mem_recordable_excludeProbe (r : Recorder) (probe p : ProbeId) :
    p ∈ (r.excludeProbe probe).recordable ↔ p ∈ r.recordable ∧ p ≠ probe := by
  unfold excludeProbe
  split
  · rw [FiniteSet.mem_remove, and_comm]
  · rename_i absent
    constructor
    · intro h
      exact ⟨h, fun heq => absent (heq ▸ h)⟩
    · exact fun h => h.1

/-! ### Values -/

theorem mem_recordable_meet (m : Moment) (probe p : ProbeId) (object : ObjectId) (fate : Fate) :
    p ∈ (r.meet m probe object fate).recordable ↔ p ∈ r.recordable ∧ (fate.bars = true → p ≠ probe) := by
  cases fate with
  | identified =>
      rw [meet, (r.emitIdentity_same m probe object).recordable]
      simp [Fate.bars, Fate.fails]
  | excluded =>
      rw [meet, (emitIdentity_same _ m probe object).recordable, mem_recordable_excludeProbe]
      simp [Fate.bars]
  | tried result =>
      cases result with
      | ok payload =>
          rw [meet, deliver, (r.emitSerialized_same m probe object payload).recordable]
          simp [Fate.bars, Fate.fails]
      | error e =>
          rw [meet, deliver, fail, (emit_same _ _).recordable]
          show p ∈ r.recordable.remove probe ↔ _
          simp [Fate.bars, Fate.fails, and_comm]

theorem mem_skipped_meet (m : Moment) (probe : ProbeId) (object id : ObjectId) (fate : Fate) :
    id ∈ (r.meet m probe object fate).skipped ↔
      id ∈ r.skipped ∨ (fate.fails = true ∧ id = object ∧ id ≠ nullObject) := by
  cases fate with
  | identified =>
      rw [meet, (r.emitIdentity_same m probe object).skipped]
      simp [Fate.fails]
  | excluded =>
      rw [meet, (emitIdentity_same _ m probe object).skipped, (r.excludeProbe_same probe).1]
      simp [Fate.fails]
  | tried result =>
      cases result with
      | ok payload =>
          rw [meet, deliver, (r.emitSerialized_same m probe object payload).skipped]
          simp [Fate.fails]
      | error e =>
          rw [meet, deliver, fail, (emit_same _ _).skipped]
          show id ∈ (if object = nullObject then r.skipped else r.skipped.insert object) ↔ _
          split
          · simp_all [Fate.fails]
          · rw [FiniteSet.mem_insert]
            simp only [Fate.fails, true_and]
            constructor
            · rintro (rfl | h)
              · exact .inr ⟨rfl, ‹_›⟩
              · exact .inl h
            · rintro (h | h)
              · exact .inr h
              · exact .inl h.1

theorem identities_meet (m : Moment) (probe : ProbeId) (object : ObjectId) (fate : Fate) :
    (r.meet m probe object fate).identities = r.identities := by
  cases fate with
  | identified => exact (r.emitIdentity_same m probe object).identities
  | excluded =>
      exact (emitIdentity_same _ m probe object).identities.trans (r.excludeProbe_same probe).2
  | tried result =>
      cases result with
      | ok payload => exact (r.emitSerialized_same m probe object payload).identities
      | error e =>
          rw [meet, deliver, fail]
          exact (emit_same _ _).identities

/-- A value costs its probe the values that come later. -/
def bars (r : Recorder) (m : Moment) (probe : ProbeId) (value : Option Subject) : Bool :=
  !r.suppressed && (r.fate m probe value).bars

/-- **A value fails to be serialized.** -/
def fails (r : Recorder) (m : Moment) (probe : ProbeId) (value : Option Subject) : Bool :=
  !r.suppressed && (r.fate m probe value).fails

/-- What fails costs its probe the values that come later. -/
theorem bars_of_fails {m : Moment} {probe : ProbeId} {value : Option Subject}
    (fails : r.fails m probe value = true) : r.bars m probe value = true := by
  unfold Recorder.fails at fails
  unfold bars
  generalize r.fate m probe value = fate at fails ⊢
  cases fate <;> simp_all [Fate.bars, Fate.fails]

theorem recordable_identified (r : Recorder) (m : Moment) (value : Option Subject) :
    (r.identified m value).recordable = r.recordable ∧ (r.identified m value).skipped = r.skipped := by
  cases value <;> exact ⟨rfl, rfl⟩

/-- **The recordable probes** after a value was recorded. -/
theorem mem_recordable_recordValue (m : Moment) (probe p : ProbeId) (value : Option Subject) :
    p ∈ (r.recordValue m probe value).recordable ↔
      p ∈ r.recordable ∧ (r.bars m probe value = true → p ≠ probe) := by
  unfold bars
  cases hs : r.suppressed with
  | true =>
      rw [recordValue_of_suppressed m probe value hs]
      simp
  | false =>
      rw [recordValue_of_active m probe value hs]
      show p ∈ (meet _ m probe _ _).recordable ↔ _
      rw [mem_recordable_meet, (recordable_identified _ m value).1]
      exact Iff.rfl

/-- **The skipped values** after a value was recorded. -/
theorem mem_skipped_recordValue (m : Moment) (probe : ProbeId) (id : ObjectId) (value : Option Subject) :
    id ∈ (r.recordValue m probe value).skipped ↔ id ∈ r.skipped ∨
      (r.fails m probe value = true ∧ id = r.identityOf m value ∧ id ≠ nullObject) := by
  unfold fails
  cases hs : r.suppressed with
  | true =>
      rw [recordValue_of_suppressed m probe value hs]
      simp
  | false =>
      rw [recordValue_of_active m probe value hs]
      show id ∈ (meet _ m probe _ _).skipped ↔ _
      rw [mem_skipped_meet, (recordable_identified _ m value).2]
      exact Iff.rfl

theorem identities_recordValue (m : Moment) (probe : ProbeId) (value : Option Subject) :
    (r.recordValue m probe value).identities =
      if r.suppressed then r.identities else (r.identified m value).identities := by
  cases hs : r.suppressed with
  | true =>
      rw [recordValue_of_suppressed m probe value hs]
      rfl
  | false =>
      rw [recordValue_of_active m probe value hs]
      show (meet _ m probe _ _).identities = _
      rw [identities_meet]
      cases value <;> rfl

/-! ### Producers -/

/-- A producer costs its probe the values that come later, because of its type. -/
def declines (r : Recorder) (probe : ProbeId) (typeName : String) : Bool :=
  !r.suppressed && r.isEligible probe r.identities.nextId && r.exclusions.isExcluded typeName

theorem anchorCall_same (r : Recorder) (m : Moment) (probe : ProbeId) (object : ObjectId) :
    r.SameSets (r.anchorCall m probe object).2 := by
  unfold anchorCall
  simp only
  have h := { r with clock := r.clock.advance m.reading }.emit_same
    (.anchor m.stamp probe object (r.clock.next m.reading))
  generalize emit _ _ = answer at h ⊢
  obtain ⟨accepted, s⟩ := answer
  cases accepted <;> exact ⟨h.recordable, h.skipped, h.identities⟩

/-- The recorder with one identity fewer to give. -/
def issued (r : Recorder) : Recorder := { r with identities := r.identities.issue.2 }

theorem startCall_eq (m : Moment) (probe : ProbeId) (typeName : String) :
    (r.startCall m probe typeName).2 =
      if r.isEligible probe r.identities.nextId = false then
        r.issued.emitIdentity m probe r.identities.nextId
      else if r.exclusions.isExcluded typeName then
        (r.issued.excludeProbe probe).emitIdentity m probe r.identities.nextId
      else (r.issued.anchorCall m probe r.identities.nextId).2 := by
  unfold startCall
  have eligible : ({ r with identities := r.identities.issue.2 } : Recorder).isEligible probe
      r.identities.issue.1 = r.isEligible probe r.identities.nextId := rfl
  simp only [eligible]
  cases r.isEligible probe r.identities.nextId with
  | false => rfl
  | true =>
      cases r.exclusions.isExcluded typeName with
      | false => rfl
      | true => rfl

/-- **Handing over a producer** takes an identity, and may cost its probe what comes later. -/
theorem startCall_sets (m : Moment) (probe : ProbeId) (typeName : String) :
    (∀ p, p ∈ (r.startCall m probe typeName).2.recordable ↔ p ∈ r.recordable ∧
        ((r.isEligible probe r.identities.nextId && r.exclusions.isExcluded typeName) = true → p ≠ probe)) ∧
      (r.startCall m probe typeName).2.skipped = r.skipped ∧
      (r.startCall m probe typeName).2.identities = r.identities.issue.2 := by
  rw [startCall_eq]
  cases r.isEligible probe r.identities.nextId with
  | false =>
      have same := r.issued.emitIdentity_same m probe r.identities.nextId
      rw [if_pos rfl, same.recordable, same.skipped, same.identities]
      simp [issued]
  | true =>
      rw [if_neg (by decide)]
      cases r.exclusions.isExcluded typeName with
      | false =>
          have same := r.issued.anchorCall_same m probe r.identities.nextId
          rw [if_neg (by decide), same.recordable, same.skipped, same.identities]
          simp [issued]
      | true =>
          have same := (r.issued.excludeProbe probe).emitIdentity_same m probe r.identities.nextId
          have excluded := r.issued.excludeProbe_same probe
          rw [if_pos rfl, same.recordable, same.skipped, same.identities, excluded.1, excluded.2]
          refine ⟨fun p => ?_, rfl, rfl⟩
          rw [mem_recordable_excludeProbe]
          simp [issued]

theorem mem_recordable_openCall (m : Moment) (probe p : ProbeId) (typeName : String) :
    p ∈ (r.openCall m probe typeName).2.recordable ↔
      p ∈ r.recordable ∧ (r.declines probe typeName = true → p ≠ probe) := by
  unfold openCall declines
  cases hs : r.suppressed with
  | true => simp
  | false => exact (startCall_sets (r := { r with suppressed := true }) m probe typeName).1 p

theorem skipped_openCall (m : Moment) (probe : ProbeId) (typeName : String) :
    (r.openCall m probe typeName).2.skipped = r.skipped := by
  unfold openCall
  split
  · rfl
  · exact (startCall_sets (r := { r with suppressed := true }) m probe typeName).2.1

theorem identities_openCall (m : Moment) (probe : ProbeId) (typeName : String) :
    (r.openCall m probe typeName).2.identities =
      if r.suppressed then r.identities else r.identities.issue.2 := by
  unfold openCall
  split
  · rfl
  · exact (startCall_sets (r := { r with suppressed := true }) m probe typeName).2.2

/-- Making the payload of an outcome decides nothing. -/
theorem outcomePayload_same (m : Moment) (outcome : CallOutcome) (hs : r.suppressed = true) :
    r.SameSets (outcomePayload m outcome r).2 := by
  cases outcome with
  | error e => exact SameSets.refl r
  | value script =>
      simp only [outcomePayload, runOutcome, script.run_of_suppressed m hs]
      split <;> exact ⟨rfl, rfl, rfl⟩

/-- Writing an outcome gives up neither a probe nor a value, also when the outcome cannot be serialized. -/
theorem writeCompletion_same (r : Recorder) (m : Moment) (call : OpenCall) (outcome : CallOutcome) :
    r.SameSets (r.writeCompletion m call outcome) := by
  have made := outcomePayload_same (r := { r with suppressed := true }) m outcome rfl
  unfold writeCompletion
  refine guarded_same ?_
  generalize outcomePayload m outcome { r with suppressed := true } = answer at made ⊢
  obtain ⟨payload, s⟩ := answer
  exact made.trans (s.emit_counted_same (.ordinary m.stamp call.anchor call.correlation (some payload))
    fun s => { s.stats with asyncCompletions := s.stats.asyncCompletions + 1 })

end Recorder

/-- **Polls** leave probes and values as they are, whatever the outcome is. -/
theorem Producer.advance_same (p : Producer) (m : Moment) (r : Recorder) :
    r.SameSets (p.advance m r).2.2 := by
  have report : ∀ (q : Producer) outcome, r.SameSets (q.report m outcome r) := by
    intro q outcome
    unfold Producer.report
    split
    · exact r.writeCompletion_same m _ outcome
    · exact Recorder.SameSets.refl r
  unfold advance
  split
  · exact Recorder.SameSets.refl r
  · exact Recorder.SameSets.refl r
  · exact Recorder.SameSets.refl r
  · exact report _ _
  · exact report _ _

namespace Recorder

variable {r : Recorder}

/-! ### Registrations -/

/-- Telling the sink about a batch decides nothing, whatever the sink answers. -/
theorem announce_same (r : Recorder) (b : WeaveBatch) : r.SameSets (r.announce b).2 := by
  unfold announce
  split
  · exact SameSets.refl r
  · split <;> exact ⟨rfl, rfl, rfl⟩

/-- A registration makes reference probes recordable, and changes neither values nor identities. -/
theorem registerBatch_sets (r : Recorder) (b : WeaveBatch) :
    (∀ p ∈ (r.registerBatch b).2.recordable, p ∈ referenceProbes b ∨ p ∈ r.recordable) ∧
      (r.registerBatch b).2.skipped = r.skipped ∧ (r.registerBatch b).2.identities = r.identities := by
  unfold registerBatch
  split
  · exact ⟨fun _ hp => .inr hp, rfl, rfl⟩
  · rename_i anchor _
    split
    · exact ⟨fun _ hp => .inr hp, rfl, rfl⟩
    · have same := (r.adopt b anchor).announce_same b
      refine ⟨fun p hp => ?_, same.skipped, same.identities⟩
      rw [same.recordable] at hp
      exact (FiniteSet.mem_insertAll r.recordable (referenceProbes b) p).mp hp

/-- A registration costs no probe its values, also when the sink refuses it. -/
theorem mem_recordable_registerBatch (b : WeaveBatch) {p : ProbeId} (h : p ∈ r.recordable) :
    p ∈ (r.registerBatch b).2.recordable := by
  unfold registerBatch
  split
  · exact h
  · rename_i anchor _
    split
    · exact h
    · rw [((r.adopt b anchor).announce_same b).recordable]
      exact (FiniteSet.mem_insertAll r.recordable (referenceProbes b) p).mpr (.inr h)

end Recorder
end ProbeRecorder
