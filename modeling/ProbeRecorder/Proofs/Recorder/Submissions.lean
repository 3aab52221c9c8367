import ProbeRecorder.Proofs.Recorder.Fate

/-!
# `ProbeRecorder.Proofs.Recorder.Submissions` — events handed to the sink, and how they are counted

Every call hands the sink at most one event. What the event is for, and whether the sink takes it, says what
comes to the log and which counters are raised: `Recorder.Submits r xs ps s` says that `s` is `r` after the
submissions `xs`, and after the probes `ps` have lost their values because of a type or a shape.

## Contents
- **Drafts.** `Draft`, an event with its `Purpose`, which the event suits (`Draft.Suits`); `Submission`, a
  draft with the sink's answer.
- **Counting.** `tally`, the statistics of some submissions; every event taken has one purpose
  (`tally_balance`).
- **Frame.** `Recorder.Submits`, which composes.
- **Emission.** The events that observations lead to.
- **Calls.** Scalars, values, calls of producers, completions, and polls.
-/

namespace ProbeRecorder

/-! ## Drafts -/

/-- **What an event is written for.** -/
inductive Purpose where
  | scalar
  /-- It names a value, and carries nothing. -/
  | identity
  | serialized
  /-- It says why a value was not serialized. -/
  | diagnostic
  | anchor
  /-- It is the outcome of a call, or says why the outcome was not serialized. -/
  | completion (failed : Bool)
  deriving DecidableEq, Repr

namespace Purpose

/-- It says why something was not serialized. -/
def diagnoses : Purpose → Bool
  | diagnostic => true
  | completion failed => failed
  | _ => false

def completes : Purpose → Bool
  | completion _ => true
  | _ => false

end Purpose

/-- **An event that is handed to the sink**, and what it is for. -/
structure Draft where
  event : Event
  purpose : Purpose
  deriving DecidableEq, Repr

/-- **The event suits its purpose.** -/
def Draft.Suits (d : Draft) : Prop :=
  match d.purpose with
  | .scalar | .identity => d.event.isAnchor = false ∧ d.event.payload = none
  | .serialized | .completion false => d.event.isAnchor = false ∧ d.event.payload ≠ none
  | .diagnostic | .completion true =>
    d.event.isAnchor = false ∧ ∃ e : RecorderError, d.event.payload = some (Payload.failure e.message)
  | .anchor => d.event.isAnchor = true

/-- **A draft with the sink's answer.** -/
structure Submission extends Draft where
  taken : Bool
  deriving DecidableEq, Repr

/-! ## Counting -/

namespace RecorderStats

/-- Counters are added one by one. -/
instance : Add RecorderStats where
  add a b :=
    { emitted := a.emitted + b.emitted
      serialized := a.serialized + b.serialized
      identityOnly := a.identityOnly + b.identityOnly
      serializationFailures := a.serializationFailures + b.serializationFailures
      probesExcluded := a.probesExcluded + b.probesExcluded
      sinkFailures := a.sinkFailures + b.sinkFailures
      asyncAnchors := a.asyncAnchors + b.asyncAnchors
      asyncCompletions := a.asyncCompletions + b.asyncCompletions }

theorem add_eq (a b : RecorderStats) : a + b =
    { emitted := a.emitted + b.emitted
      serialized := a.serialized + b.serialized
      identityOnly := a.identityOnly + b.identityOnly
      serializationFailures := a.serializationFailures + b.serializationFailures
      probesExcluded := a.probesExcluded + b.probesExcluded
      sinkFailures := a.sinkFailures + b.sinkFailures
      asyncAnchors := a.asyncAnchors + b.asyncAnchors
      asyncCompletions := a.asyncCompletions + b.asyncCompletions } := rfl

theorem add_assoc (a b c : RecorderStats) : a + b + c = a + (b + c) := by
  simp only [add_eq, Nat.add_assoc]

theorem zero_add (a : RecorderStats) : {} + a = a := by
  simp only [add_eq, Nat.zero_add]

end RecorderStats

/-- How many submissions for some purposes the sink took. -/
def takenFor (purposes : Purpose → Bool) (xs : List Submission) : Nat :=
  xs.countP fun x => x.taken && purposes x.purpose

/-- **The statistics of some submissions**, and of probes that lost their values because of a type. What the
    sink did not take counts as a failure of the sink; a failed serialization counts whether or not the
    sink took its diagnostic. -/
def tally (xs : List Submission) (ps : List ProbeId) : RecorderStats where
  emitted := xs.countP fun x => x.taken
  serialized := takenFor (· = .serialized) xs
  identityOnly := takenFor (· = .identity) xs
  serializationFailures := xs.countP fun x => x.purpose.diagnoses
  probesExcluded := ps.length
  sinkFailures := xs.countP fun x => !x.taken
  asyncAnchors := takenFor (· = .anchor) xs
  asyncCompletions := takenFor Purpose.completes xs

theorem takenFor_append (purposes : Purpose → Bool) (xs ys : List Submission) :
    takenFor purposes (xs ++ ys) = takenFor purposes xs + takenFor purposes ys := List.countP_append

theorem tally_append (xs ys : List Submission) (ps qs : List ProbeId) :
    tally (xs ++ ys) (ps ++ qs) = tally xs ps + tally ys qs := by
  simp only [tally, RecorderStats.add_eq, takenFor_append, List.countP_append, List.length_append]

/-- **Every event that the sink takes is counted once** by its purpose, scalars and diagnostics of values
    aside, which have no counter. -/
theorem tally_balance (xs : List Submission) (ps : List ProbeId) :
    (tally xs ps).emitted = (tally xs ps).serialized + (tally xs ps).identityOnly +
      (tally xs ps).asyncAnchors + (tally xs ps).asyncCompletions +
      takenFor (· = .scalar) xs + takenFor (· = .diagnostic) xs := by
  induction xs with
  | nil => rfl
  | cons x rest ih =>
      obtain ⟨⟨event, purpose⟩, taken⟩ := x
      simp only [tally, takenFor, List.countP_cons] at ih ⊢
      cases taken with
      | false => simpa using ih
      | true => cases purpose <;> simp [Purpose.completes] at ih ⊢ <;> omega

namespace Recorder

variable {r s t : Recorder} {xs ys : List Submission} {ps qs : List ProbeId}

/-! ## Frame -/

/-- **The sink takes the event**; where nothing is kept, everything is taken. -/
def accepts (r : Recorder) (e : Event) : Bool :=
  r.discards || (r.sink.refusal (Sink.callFor e)).isNone

/-- A draft that is handed to the sink of the recorder. -/
def submission (r : Recorder) (d : Draft) : Submission := ⟨d, r.accepts d.event⟩

/-- The events that some submissions bring to the log. -/
def entered (r : Recorder) (xs : List Submission) : List Event :=
  if r.discards then [] else (xs.filter Submission.taken).map fun x => x.event

/-- **The recorder after some submissions**: what they bring to the log, and how they are counted. -/
structure Submits (r : Recorder) (xs : List Submission) (ps : List ProbeId) (s : Recorder) : Prop where
  events : s.sink.events = r.sink.events ++ r.entered xs
  stats : s.stats = r.stats + tally xs ps

theorem entered_nil (r : Recorder) : r.entered [] = [] := by
  unfold entered
  split <;> rfl

theorem entered_append (r : Recorder) (xs ys : List Submission) :
    r.entered (xs ++ ys) = r.entered xs ++ r.entered ys := by
  unfold entered
  split
  · rfl
  · rw [List.filter_append, List.map_append]

theorem Logs.events {es : List Entry} (h : r.Logs es s) : s.sink.events = r.sink.events ++ eventsOf es := by
  unfold Sink.events
  rw [h.log]
  exact List.filterMap_append

/-- What comes to the log of one event is what is kept of it. -/
theorem Logs.events_submission {d : Draft} (h : r.Logs (r.kept (Sink.callFor d.event) (.event d.event)) s) :
    s.sink.events = r.sink.events ++ r.entered [r.submission d] := by
  have kept : r.entered [r.submission d] = eventsOf (r.kept (Sink.callFor d.event) (.event d.event)) := by
    unfold entered submission accepts kept
    cases r.discards with
    | true => rfl
    | false => cases r.sink.refusal (Sink.callFor d.event) <;> rfl
  rw [h.events, kept]

/-- A call that hands over nothing and counts nothing. -/
theorem submits_nil (events : s.sink.events = r.sink.events) (stats : s.stats = r.stats) :
    r.Submits [] [] s where
  events := by rw [entered_nil, List.append_nil, events]
  stats := stats

theorem Submits.refl (r : Recorder) : r.Submits [] [] r := submits_nil rfl rfl

theorem Submits.trans (h : r.Submits xs ps s) (discards : s.discards = r.discards)
    (k : s.Submits ys qs t) : r.Submits (xs ++ ys) (ps ++ qs) t where
  events := by
    have same : s.entered ys = r.entered ys := by
      unfold entered
      rw [discards]
    rw [k.events, h.events, same, entered_append, List.append_assoc]
  stats := by rw [k.stats, h.stats, tally_append, RecorderStats.add_assoc]

/-- Suppressing recording while work is done hands over nothing. -/
theorem guarded_submits {f : Recorder → Recorder}
    (h : { r with suppressed := true }.Submits xs ps (f { r with suppressed := true })) :
    r.Submits xs ps (r.guarded f) :=
  ⟨h.events, h.stats⟩

/-- Something, unless recording is suppressed. -/
def whenActive {α : Type} (r : Recorder) (xs : List α) : List α := if r.suppressed then [] else xs

theorem whenActive_of_suppressed {α : Type} (xs : List α) (h : r.suppressed = true) :
    r.whenActive xs = [] := if_pos h

theorem whenActive_of_active {α : Type} (xs : List α) (h : r.suppressed = false) :
    r.whenActive xs = xs := if_neg (by rw [h]; exact Bool.false_ne_true)

theorem eq_of_mem_whenActive {α : Type} {x y : α} (h : y ∈ r.whenActive [x]) : y = x := by
  unfold whenActive at h
  split at h
  · cases h
  · exact List.mem_singleton.mp h

/-! ## Emission -/

/-- The sink's answer to an event, and how it is counted. -/
theorem emit_stats (r : Recorder) (e : Event) :
    (r.emit e).1 = r.accepts e ∧
      (r.emit e).2.stats = r.stats + if r.accepts e then { emitted := 1 } else { sinkFailures := 1 } := by
  unfold emit accepts
  cases hd : r.discards with
  | true => exact ⟨rfl, rfl⟩
  | false =>
      unfold Sink.append Sink.accept
      cases r.sink.refusal (Sink.callFor e) <;> exact ⟨rfl, rfl⟩

/-- The answer to an event may raise one more counter. -/
theorem emit_counted_stats (r : Recorder) (e : Event) (count : Recorder → RecorderStats) (more : RecorderStats)
    (counts : ∀ t : Recorder, count t = t.stats + more) :
    (match r.emit e with
      | (true, s) => { s with stats := count s }
      | (false, s) => s).stats =
    r.stats + if r.accepts e then ({ emitted := 1 } : RecorderStats) + more else { sinkFailures := 1 } := by
  obtain ⟨answer, stats⟩ := r.emit_stats e
  generalize r.emit e = found at answer stats ⊢
  obtain ⟨accepted, s⟩ := found
  simp only at answer stats
  subst answer
  cases accepted : r.accepts e with
  | true =>
      rw [accepted] at stats
      show count s = _
      rw [counts, stats]
      exact RecorderStats.add_assoc _ _ _
  | false =>
      rw [accepted] at stats
      exact stats

theorem emit_submits (r : Recorder) (e : Event) : r.Submits [r.submission ⟨e, .scalar⟩] [] (r.emit e).2 where
  events := (r.emit_logs e).events_submission
  stats := by
    rw [(r.emit_stats e).2]
    unfold submission
    cases r.accepts e <;> rfl

/-- **An event is handed to the sink**, and raises the counter of its purpose if it is taken. -/
theorem emit_counted_submits (r : Recorder) (d : Draft) (count : Recorder → RecorderStats) (more : RecorderStats)
    (counts : ∀ t : Recorder, count t = t.stats + more)
    (tallied : ∀ taken, tally [⟨d, taken⟩] [] =
      if taken then ({ emitted := 1 } : RecorderStats) + more else { sinkFailures := 1 }) :
    r.Submits [r.submission d] []
      (match r.emit d.event with
      | (true, s) => { s with stats := count s }
      | (false, s) => s) where
  events := (r.emit_counted_logs d.event count).events_submission
  stats := by
    rw [r.emit_counted_stats d.event count more counts]
    unfold submission
    rw [tallied]

theorem emitIdentity_submits (r : Recorder) (m : Moment) (probe : ProbeId) (object : ObjectId) :
    r.Submits [r.submission ⟨.ordinary m.stamp probe object none, .identity⟩] []
      (r.emitIdentity m probe object) :=
  r.emit_counted_submits ⟨.ordinary m.stamp probe object none, .identity⟩ _ { identityOnly := 1 }
    (fun _ => rfl) (fun taken => by cases taken <;> rfl)

theorem emitSerialized_submits (r : Recorder) (m : Moment) (probe : ProbeId) (object : ObjectId)
    (payload : Bytes) :
    r.Submits [r.submission ⟨.ordinary m.stamp probe object (some payload), .serialized⟩] []
      (r.emitSerialized m probe object payload) :=
  r.emit_counted_submits ⟨.ordinary m.stamp probe object (some payload), .serialized⟩ _ { serialized := 1 }
    (fun _ => rfl) (fun taken => by cases taken <;> rfl)

theorem fail_submits (r : Recorder) (m : Moment) (probe : ProbeId) (object : ObjectId) (e : RecorderError) :
    r.Submits [r.submission ⟨.ordinary m.stamp probe object (some (Payload.failure e.message)), .diagnostic⟩] []
      (r.fail m probe object e) where
  events := (r.fail_logs m probe object e).events_submission
  stats := by
    unfold fail submission
    rw [(emit_stats _ _).2]
    -- Giving up changes neither the sink nor what it is asked.
    show r.stats + { serializationFailures := 1 } + (if r.accepts _ then _ else _) = _
    rw [RecorderStats.add_assoc]
    cases r.accepts _ <;> rfl

/-- A probe that is recordable loses its values. -/
theorem excludeProbe_submits {probe : ProbeId} (recordable : probe ∈ r.recordable) :
    r.Submits [] [probe] (r.excludeProbe probe) := by
  unfold excludeProbe
  rw [if_pos recordable]
  exact ⟨by rw [entered_nil, List.append_nil], rfl⟩

/-- The sink answers as before when a probe has lost its values. -/
theorem excludeProbe_asks (r : Recorder) (probe : ProbeId) (d : Draft) :
    (r.excludeProbe probe).submission d = r.submission d ∧
      (r.excludeProbe probe).discards = r.discards := by
  unfold excludeProbe
  split <;> exact ⟨rfl, rfl⟩

end Recorder

/-! ## Scalars and values -/

namespace Fate

/-- Values of this type or shape are not serialized. -/
def excludes : Fate → Bool
  | excluded => true
  | _ => false

/-- **What is written of a value** with this fate. -/
def draft (m : Moment) (probe : ProbeId) (object : ObjectId) : Fate → Draft
  | identified | excluded => ⟨.ordinary m.stamp probe object none, .identity⟩
  | tried (.ok payload) => ⟨.ordinary m.stamp probe object (some payload), .serialized⟩
  | tried (.error e) => ⟨.ordinary m.stamp probe object (some (Payload.failure e.message)), .diagnostic⟩

theorem draft_suits (m : Moment) (probe : ProbeId) (object : ObjectId) (fate : Fate) :
    (fate.draft m probe object).Suits := by
  cases fate with
  | identified => exact ⟨rfl, rfl⟩
  | excluded => exact ⟨rfl, rfl⟩
  | tried result =>
      cases result with
      | ok payload => exact ⟨rfl, Option.some_ne_none payload⟩
      | error e => exact ⟨rfl, e, rfl⟩

end Fate

namespace Recorder

variable {r s : Recorder}

theorem recordScalar_submits (r : Recorder) (m : Moment) (probe : ProbeId) (value : Scalar) :
    r.Submits ((r.whenActive [⟨.ordinary m.stamp probe value.encode none, .scalar⟩]).map r.submission) []
      (r.recordScalar m probe value) := by
  unfold recordScalar unlessSuppressed
  cases suppressed : r.suppressed with
  | true =>
      rw [whenActive_of_suppressed _ suppressed]
      exact Submits.refl r
  | false =>
      rw [whenActive_of_active _ suppressed, if_neg Bool.false_ne_true]
      refine guarded_submits ?_
      exact emit_submits { r with suppressed := true } _

/-- **A value meets its fate**; the probe of an excluded one is recordable until then. -/
theorem meet_submits (m : Moment) (probe : ProbeId) (object : ObjectId) (fate : Fate)
    (recordable : fate.excludes = true → probe ∈ r.recordable) :
    r.Submits [r.submission (fate.draft m probe object)] (if fate.excludes then [probe] else [])
      (r.meet m probe object fate) := by
  cases fate with
  | identified => exact r.emitIdentity_submits m probe object
  | excluded =>
      obtain ⟨asks, discards⟩ := r.excludeProbe_asks probe (Fate.excluded.draft m probe object)
      have identified := (r.excludeProbe probe).emitIdentity_submits m probe object
      have excluded := (excludeProbe_submits (recordable rfl)).trans discards identified
      rw [← asks]
      exact excluded
  | tried result =>
      cases result with
      | ok payload => exact r.emitSerialized_submits m probe object payload
      | error e => exact r.fail_submits m probe object e

theorem mem_recordable_of_eligible {probe : ProbeId} {object : ObjectId}
    (h : r.isEligible probe object = true) : probe ∈ r.recordable := by
  simp only [isEligible, Bool.and_eq_true, decide_eq_true_eq] at h
  exact h.1.2

/-- Only a value at a recordable probe is excluded for its type. -/
theorem mem_recordable_of_excludes {m : Moment} {probe : ProbeId} {value : Option Subject}
    (h : (r.fate m probe value).excludes = true) : probe ∈ r.recordable := by
  unfold fate at h
  split at h
  · exact mem_recordable_of_eligible ‹_›
  · cases h

/-- **Recording a value** hands over one event. -/
theorem recordValue_submits (r : Recorder) (m : Moment) (probe : ProbeId) (value : Option Subject) :
    r.Submits
      ((r.whenActive [(r.fate m probe value).draft m probe (r.identityOf m value)]).map r.submission)
      (r.whenActive (if (r.fate m probe value).excludes then [probe] else []))
      (r.recordValue m probe value) := by
  cases suppressed : r.suppressed with
  | true =>
      rw [whenActive_of_suppressed _ suppressed, whenActive_of_suppressed _ suppressed,
        recordValue_of_suppressed m probe value suppressed]
      exact Submits.refl r
  | false =>
      rw [whenActive_of_active _ suppressed, whenActive_of_active _ suppressed,
        recordValue_of_active m probe value suppressed]
      -- Identifying a value changes neither the sink nor the recordable probes.
      have met := meet_submits (r := { r with suppressed := true }.identified m value) m probe
        (r.identityOf m value) (r.fate m probe value)
        (by
          intro excludes
          rw [(recordable_identified _ m value).1]
          exact mem_recordable_of_excludes excludes)
      refine guarded_submits ?_
      cases value <;> exact ⟨met.events, met.stats⟩

/-! ## Calls of producers -/

/-- **What is written when a producer is handed over**: the anchor of its call if that is opened, else its
    identity. -/
def callDraft (r : Recorder) (m : Moment) (probe : ProbeId) (typeName : String) : Draft :=
  if r.opens probe typeName then
    ⟨.anchor m.stamp probe r.identities.nextId (r.clock.next m.reading), .anchor⟩
  else ⟨.ordinary m.stamp probe r.identities.nextId none, .identity⟩

theorem callDraft_suits (r : Recorder) (m : Moment) (probe : ProbeId) (typeName : String) :
    (r.callDraft m probe typeName).Suits := by
  unfold callDraft
  split
  · exact rfl
  · exact ⟨rfl, rfl⟩

theorem anchorCall_submits (r : Recorder) (m : Moment) (probe : ProbeId) (object : ObjectId) :
    r.Submits [r.submission ⟨.anchor m.stamp probe object (r.clock.next m.reading), .anchor⟩] []
      (r.anchorCall m probe object).2 := by
  have after : (r.anchorCall m probe object).2 =
      match emit { r with clock := r.clock.advance m.reading }
          (.anchor m.stamp probe object (r.clock.next m.reading)) with
        | (true, s) => { s with stats := { s.stats with asyncAnchors := s.stats.asyncAnchors + 1 } }
        | (false, s) => s := by
    unfold anchorCall
    simp only
    generalize emit _ _ = answer
    obtain ⟨accepted, s⟩ := answer
    cases accepted <;> rfl
  have anchored := emit_counted_submits { r with clock := r.clock.advance m.reading }
    ⟨.anchor m.stamp probe object (r.clock.next m.reading), .anchor⟩
    (fun s => { s.stats with asyncAnchors := s.stats.asyncAnchors + 1 }) { asyncAnchors := 1 }
    (fun _ => rfl) (fun taken => by cases taken <;> rfl)
  rw [after]
  exact ⟨anchored.events, anchored.stats⟩

/-- **Handing over a producer** hands one event to the sink. -/
theorem openCall_submits (r : Recorder) (m : Moment) (probe : ProbeId) (typeName : String) :
    r.Submits ((r.whenActive [r.callDraft m probe typeName]).map r.submission)
      (if r.declines probe typeName then [probe] else []) (r.openCall m probe typeName).2 := by
  cases suppressed : r.suppressed with
  | true =>
      have declines : r.declines probe typeName = false := by simp [declines, suppressed]
      rw [whenActive_of_suppressed _ suppressed, declines, openCall_of_suppressed m probe typeName suppressed]
      exact Submits.refl r
  | false =>
      have opened : (r.openCall m probe typeName).2 = r.guarded fun s => (s.startCall m probe typeName).2 := by
        unfold openCall
        rw [if_neg (by rw [suppressed]; exact Bool.false_ne_true)]
        rfl
      rw [whenActive_of_active _ suppressed, opened]
      refine guarded_submits ?_
      rw [startCall_eq]
      -- Neither eligibility nor the sink's answer depends on the identity that was taken.
      have eligibility : ({ r with suppressed := true } : Recorder).isEligible probe r.identities.nextId =
          r.isEligible probe r.identities.nextId := rfl
      simp only [eligibility, callDraft, declines, opens, suppressed, Bool.not_false, Bool.true_and]
      cases eligible : r.isEligible probe r.identities.nextId with
      | false =>
          have identified := ({ r with suppressed := true } : Recorder).issued.emitIdentity_submits m probe
            r.identities.nextId
          exact ⟨identified.events, identified.stats⟩
      | true =>
          have recordable : probe ∈ r.recordable := mem_recordable_of_eligible eligible
          cases r.exclusions.isExcluded typeName with
          | false =>
              have anchored := ({ r with suppressed := true } : Recorder).issued.anchorCall_submits m probe
                r.identities.nextId
              exact ⟨anchored.events, anchored.stats⟩
          | true =>
              have excluded := meet_submits (r := ({ r with suppressed := true } : Recorder).issued) m probe
                r.identities.nextId .excluded fun _ => recordable
              exact ⟨excluded.events, excluded.stats⟩

end Recorder

/-! ## Completions -/

/-- The outcome of a call cannot be serialized. -/
def Codec.fails (codec : Codec) : CallOutcome → Bool
  | .value script =>
    match script.outcome.structure.bind codec.encode with
    | .ok _ => false
    | .error _ => true
  | .error _ => false

/-- **What is written of an outcome.** -/
def OpenCall.draft (call : OpenCall) (codec : Codec) (stamp : Stamp) (outcome : CallOutcome) : Draft :=
  ⟨call.completion codec stamp outcome, .completion (codec.fails outcome)⟩

theorem OpenCall.draft_suits (call : OpenCall) (codec : Codec) (stamp : Stamp) (outcome : CallOutcome) :
    (call.draft codec stamp outcome).Suits := by
  cases outcome with
  | error e => exact ⟨rfl, Option.some_ne_none _⟩
  | value script =>
      simp only [draft, completion, Codec.fails, Codec.outcomeBytes]
      cases script.outcome.structure.bind codec.encode with
      | ok payload => exact ⟨rfl, Option.some_ne_none payload⟩
      | error e => exact ⟨rfl, e, rfl⟩

namespace Recorder

/-- Making the payload of an outcome hands over nothing; a failure is counted. -/
theorem outcomePayload_stats {r : Recorder} (m : Moment) (outcome : CallOutcome) (h : r.suppressed = true) :
    (outcomePayload m outcome r).2.stats =
      r.stats + { serializationFailures := (r.codec.fails outcome).toNat } := by
  cases outcome with
  | error e => rfl
  | value script =>
      simp only [outcomePayload, runOutcome, script.run_of_suppressed m h, Codec.fails]
      cases script.outcome.structure.bind r.codec.encode <;> rfl

/-- **Writing an outcome** hands over its completion event, also while recording is suppressed. -/
theorem writeCompletion_submits (r : Recorder) (m : Moment) (call : OpenCall) (outcome : CallOutcome) :
    r.Submits [r.submission (call.draft r.codec m.stamp outcome)] [] (r.writeCompletion m call outcome) where
  events := (r.writeCompletion_logs m call outcome).events_submission
  stats := by
    have failed := outcomePayload_stats (r := { r with suppressed := true }) m outcome rfl
    obtain ⟨bytes, quiet⟩ := outcomePayload_logs (r := { r with suppressed := true }) m outcome rfl
    have counted := (outcomePayload m outcome { r with suppressed := true }).2.emit_counted_stats
      (.ordinary m.stamp call.anchor call.correlation
        (some (outcomePayload m outcome { r with suppressed := true }).1))
      (fun s => { s.stats with asyncCompletions := s.stats.asyncCompletions + 1 }) { asyncCompletions := 1 }
      fun _ => rfl
    have asked : ∀ e, (outcomePayload m outcome { r with suppressed := true }).2.accepts e = r.accepts e := by
      intro e
      unfold accepts
      rw [quiet.discards, quiet.refusal]
    refine Eq.trans counted ?_
    rw [bytes, failed, asked, RecorderStats.add_assoc]
    unfold submission OpenCall.draft OpenCall.completion
    cases r.codec.fails outcome <;> cases r.accepts _ <;> rfl

end Recorder

/-! ## Registrations -/

/-- Registrations write no event, and no counter counts them. -/
theorem Recorder.registerBatch_submits (r : Recorder) (b : WeaveBatch) :
    r.Submits [] [] (r.registerBatch b).2 := by
  have stats : ∀ s : Recorder, (s.announce b).2.stats = s.stats := by
    intro s
    unfold announce
    split
    · rfl
    · split <;> rfl
  by_cases known : b.anchor? = none ∨ b.classId ∈ r.classes
  · rw [registerBatch_of_known b known]
    exact Submits.refl r
  · rw [not_or] at known
    obtain ⟨anchor, first⟩ := Option.ne_none_iff_exists'.mp known.1
    have logs := registerBatch_of_new b first known.2
    refine submits_nil ?_ ?_
    · have none : eventsOf (r.kept .register (.weave b.classId b.probeIds)) = [] := by
        refine List.filterMap_eq_nil_iff.mpr fun e he => ?_
        rw [mem_kept he]
        rfl
      rw [logs.events, none, List.append_nil]
    · unfold registerBatch
      rw [first]
      simp only [known.2, if_false]
      exact stats (r.adopt b anchor)

/-! ## Polls -/

/-- **What is written when the next answer is passed on**: its outcome, while there is a call to write it
    under. -/
def Producer.drafts (p : Producer) (m : Moment) (codec : Codec) : List Draft :=
  match p.call, p.next.1 with
  | some call, .ready outcome => [call.draft codec m.stamp outcome]
  | _, _ => []

theorem Producer.advance_submits (p : Producer) (m : Moment) (r : Recorder) :
    r.Submits ((p.drafts m r.codec).map r.submission) [] (p.advance m r).2.2 := by
  have hcall := p.next_call
  have quiet : ∀ answer, (∀ outcome, answer ≠ .ready outcome) → p.next.1 = answer →
      p.drafts m r.codec = [] := by
    intro answer h hnext
    unfold drafts
    rw [hnext]
    split
    · exact absurd rfl (h _)
    · rfl
  have reported : ∀ outcome, p.next.1 = .ready outcome →
      r.Submits ((p.drafts m r.codec).map r.submission) [] (p.next.2.report m outcome r) := by
    intro outcome hnext
    unfold drafts report
    rw [hnext, hcall]
    cases p.call with
    | none => exact Recorder.Submits.refl r
    | some call => exact r.writeCompletion_submits m call outcome
  unfold advance
  generalize p.next = found at hcall quiet reported ⊢
  obtain ⟨answer, q⟩ := found
  cases answer with
  | pending =>
      rw [quiet .pending (fun _ h => nomatch h) rfl]
      exact Recorder.Submits.refl r
  | ended =>
      rw [quiet .ended (fun _ h => nomatch h) rfl]
      cases p.kind <;> exact Recorder.Submits.refl r
  | ready outcome => cases p.kind <;> exact reported outcome rfl

end ProbeRecorder
