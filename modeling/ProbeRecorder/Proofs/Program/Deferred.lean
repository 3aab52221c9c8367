import Mathlib.Data.List.Induction
import ProbeRecorder.Subject.Completion
import ProbeRecorder.Proofs.Program.Guards
import ProbeRecorder.Proofs.Program.Permanence
import ProbeRecorder.Proofs.Recorder.Rulings

/-!
# `ProbeRecorder.Proofs.Program.Deferred` — completions that are recorded while they may be resolved

A program resolves a completion, waits for it and reads it, and records it in between, at one probe or at
several. Only the first resolution counts. A recording that comes before it waits in vain, which costs
nothing; one that comes after it writes what the completion was resolved with, or fails for good.

## Contents
- **Resolutions.** `Resolution.structure` and `Resolution.encoding`, what a completion is read as once it is
  resolved, and how waiting, reading and recording come to that (`wait_eq`, `read_eq`, `payloadOf_eq`).
- **Uses.** `CompletionUse`, what the program does; `firstResolution`, which is what the slot holds
  (`slot_after`), and all that is reported (`answer_eq`).
- **Recordings.** `Deferred`, a completion in memory; the `Deferred.steps` that the recorder sees, and the
  `Deferred.scene` they lead to.
- **Failures.** `Recorder.Attends`; `Deferred.FailsAt` and `Deferred.Failed`, without which the completion is
  not skipped (`failed_of_mem_failures`).
- **Runs.** `Deferred.Recorded` under a ruling (`recorded_of_attends`), which `Deferred.Spares` or
  `Deferred.Costs` probe and completion; `Deferred.Recordings`, of every run of a new recorder
  (`run_assignedOnce`).
-/

namespace ProbeRecorder

/-! ## Resolutions -/

/-- What reading a completion comes to, once it is resolved. -/
def Resolution.outcome : Resolution → Outcome
  | .value script => script.outcome
  | .failure message => .error (Completion.failureError message)

/-- The code of a value comes to an end, as that of everything but completions does. -/
def Resolution.Settled (r : Resolution) : Prop := r.outcome ≠ .unresolved

/-- **What a resolution is read as**: the structure of a value, or why there is none. -/
def Resolution.structure (r : Resolution) : Except RecorderError Json := r.outcome.structure

/-- The bytes of a resolution, or the error of making them. -/
def Resolution.encoding (codec : Codec) (r : Resolution) : Except RecorderError Bytes :=
  r.structure.bind codec.encode

/-- The payload for what a slot holds: with nothing in it, the value is unavailable. -/
def Resolution.payload (codec : Codec) : Option Resolution → Except RecorderError Bytes
  | none => .ok Payload.unavailable
  | some r => r.encoding codec

namespace Completion

/-- What the slot holds came to an end. -/
def Settled (c : Completion) : Prop := ∀ r, c.slot = some r → r.Settled

variable {c : Completion}

theorem outcome_script (c : Completion) :
    c.script.outcome = c.slot.elim .unresolved Resolution.outcome := by
  unfold script
  rcases c.slot with _ | _ | _ <;> rfl

theorem wait_eq (settled : c.Settled) : c.wait = c.slot.map Resolution.structure := by
  unfold wait
  rw [outcome_script]
  cases slot : c.slot with
  | none => rfl
  | some r =>
      simp only [Option.elim_some, Option.map_some, Resolution.structure]
      split
      · exact absurd ‹_› (settled r slot)
      · rfl

theorem read_eq (c : Completion) : c.read = c.slot.elim (.error unresolvedError) Resolution.structure := by
  unfold read
  rw [outcome_script]
  cases c.slot <;> rfl

theorem payloadOf_eq (settled : c.Settled) (codec : Codec) :
    Recorder.payloadOf codec .completion c.script.outcome = Resolution.payload codec c.slot := by
  rw [outcome_script]
  cases slot : c.slot with
  | none => rfl
  | some r =>
      have ends := settled r slot
      unfold Resolution.Settled at ends
      simp only [Option.elim_some, Resolution.payload, Resolution.encoding, Resolution.structure]
      -- Only an outcome that is not there yet is handled otherwise.
      generalize r.outcome = outcome at ends
      cases outcome with
      | unresolved => exact absurd rfl ends
      | _ => rfl

end Completion

/-! ## Uses -/

/-- **An occasion** on which a completion is recorded: a probe that is hit, by which thread and in which moment,
    and what the sink refuses meanwhile. -/
structure Occasion where
  thread : Nat
  moment : Moment
  refusal : SinkCall → Option RecorderError
  probe : ProbeId

/-- **What a program does** while it has a completion at `a`: it resolves it with a value or a failure, asks
    for it or records it. Other steps may lie between, among them those of code that reading it runs. -/
inductive CompletionUse (a : Allocation) where
  | resolve (r : Resolution) (settled : r.Settled)
  | isDone
  | wait
  | read
  | record (w : Occasion)
  | other (step : Step) (apart : ∀ subject, step.action.subject? = some subject → subject.allocation ≠ a)

/-- **What a use reports.** -/
inductive CompletionAnswer where
  | took (effect : Bool)
  | done (done : Bool)
  | waited (result : Option (Except RecorderError Json))
  | read (result : Except RecorderError Json)
  | silent

namespace CompletionUse

variable {a : Allocation}

def resolution? : CompletionUse a → Option Resolution
  | resolve r _ => some r
  | _ => none

/-- The use is one of the completion. -/
def isOwn : CompletionUse a → Bool
  | other _ _ => false
  | _ => true

/-- The probes whose values are asked for. -/
def named : CompletionUse a → List ProbeId
  | other step _ => step.action.named
  | _ => []

/-- **What a use is to report**, if the completion was first resolved with `first`. -/
def expected (first : Option Resolution) : CompletionUse a → CompletionAnswer
  | resolve _ _ => .took first.isNone
  | isDone => .done first.isSome
  | wait => .waited (first.map Resolution.structure)
  | read => .read (first.elim (.error unresolvedError) Resolution.structure)
  | record _ => .silent
  | other _ _ => .silent

end CompletionUse

/-- **The first resolution** among some uses. -/
def firstResolution {a : Allocation} (uses : List (CompletionUse a)) : Option Resolution :=
  uses.findSome? CompletionUse.resolution?

namespace Completion

variable {a : Allocation} {c : Completion}

/-- What a use reports. -/
def answer (c : Completion) : CompletionUse a → CompletionAnswer
  | .resolve r _ => .took (c.resolve r).1
  | .isDone => .done c.isDone
  | .wait => .waited c.wait
  | .read => .read c.read
  | .record _ => .silent
  | .other _ _ => .silent

/-- The completion after a use. -/
def next (c : Completion) : CompletionUse a → Completion
  | .resolve r _ => (c.resolve r).2
  | _ => c

/-- The completion after some uses. -/
def after (c : Completion) (uses : List (CompletionUse a)) : Completion := uses.foldl next c

/-- **A slot is filled once.** -/
theorem slot_next (c : Completion) (use : CompletionUse a) :
    (c.next use).slot = c.slot.or use.resolution? := by
  cases use with
  | resolve r settled =>
      rw [next, resolve]
      cases slot : c.slot with
      | none => rfl
      | some first => exact slot
  | _ => exact (Option.or_none).symm

/-- **The slot holds the first resolution.** -/
theorem slot_after (uses : List (CompletionUse a)) :
    ∀ c : Completion, (c.after uses).slot = c.slot.or (firstResolution uses) := by
  induction uses with
  | nil => exact fun c => (Option.or_none).symm
  | cons use rest ih =>
      intro c
      show ((c.next use).after rest).slot = _
      rw [ih, slot_next, Option.or_assoc]
      unfold firstResolution
      rw [List.findSome?_cons]
      cases use.resolution? <;> rfl

theorem slot_unresolved_after (uses : List (CompletionUse a)) :
    (unresolved.after uses).slot = firstResolution uses := slot_after uses unresolved

theorem settled_after (uses : List (CompletionUse a)) : (unresolved.after uses).Settled := by
  intro r slot
  rw [slot_unresolved_after] at slot
  obtain ⟨use, -, resolved⟩ := List.exists_of_findSome?_eq_some slot
  cases use with
  | resolve first settled =>
      obtain rfl := Option.some.inj resolved
      exact settled
  | _ => cases resolved

/-- **Every use reports the first resolution.** -/
theorem answer_eq (uses : List (CompletionUse a)) (use : CompletionUse a) :
    (unresolved.after uses).answer use = use.expected (firstResolution uses) := by
  have slot := slot_unresolved_after uses
  cases use with
  | resolve r _ =>
      rw [answer, CompletionUse.expected, ← slot, resolve]
      cases (unresolved.after uses).slot <;> rfl
  | isDone => rw [answer, CompletionUse.expected, ← slot, isDone]
  | wait => rw [answer, CompletionUse.expected, ← slot, wait_eq (settled_after uses)]
  | read => rw [answer, CompletionUse.expected, ← slot, read_eq]
  | record _ => rfl
  | other _ _ => rfl

end Completion

/-- The first resolution stays the first. -/
theorem firstResolution_append {a : Allocation} {uses : List (CompletionUse a)} {r : Resolution}
    (first : firstResolution uses = some r) (post : List (CompletionUse a)) :
    firstResolution (uses ++ post) = some r := by
  unfold firstResolution at first ⊢
  rw [List.findSome?_append, first]
  rfl

/-! ## Recordings -/

/-- **A completion in memory.** -/
structure Deferred where
  allocation : Allocation
  typeName : String

namespace Deferred

/-- The completion as the recorder sees it. -/
def subject (x : Deferred) (c : Completion) : Subject := .mk x.allocation x.typeName .completion c.script

/-- The completion as it is after some uses. -/
abbrev observed (x : Deferred) (uses : List (CompletionUse x.allocation)) : Subject :=
  x.subject (Completion.unresolved.after uses)

/-- The step of the recorder that a use is, if it is one. -/
def step? (x : Deferred) (c : Completion) : CompletionUse x.allocation → Option Step
  | .record w => some ⟨w.thread, w.moment, w.refusal, .value w.probe (some (x.subject c))⟩
  | .other step _ => some step
  | _ => none

/-- **What the recorder sees** of some uses. -/
def steps (x : Deferred) (c : Completion) : List (CompletionUse x.allocation) → List Step
  | [] => []
  | use :: rest => (x.step? c use).toList ++ x.steps (c.next use) rest

variable {x : Deferred} {start : Scene} {pre mid post uses : List (CompletionUse x.allocation)}
  {use : CompletionUse x.allocation} {w : Occasion} {thread : Nat} {probe : ProbeId} {e : RecorderError}

theorem steps_append (pre post : List (CompletionUse x.allocation)) :
    ∀ c : Completion, x.steps c (pre ++ post) = x.steps c pre ++ x.steps (c.after pre) post := by
  induction pre with
  | nil => exact fun c => rfl
  | cons use rest ih =>
      intro c
      rw [List.cons_append, steps, ih, steps, List.append_assoc]
      rfl

/-- The steps of a program that starts with a new completion. -/
abbrev run (x : Deferred) (uses : List (CompletionUse x.allocation)) : List Step := x.steps .unresolved uses

theorem run_concat (uses : List (CompletionUse x.allocation)) (use : CompletionUse x.allocation) :
    x.run (uses ++ [use]) = x.run uses ++ (x.step? (Completion.unresolved.after uses) use).toList := by
  rw [run, steps_append, steps, steps, List.append_nil]

/-- **The scene** that some uses lead to. -/
def scene (x : Deferred) (start : Scene) (uses : List (CompletionUse x.allocation)) : Scene :=
  start.after (x.run uses)

/-- The step in which the completion is recorded after some uses. -/
def recording (x : Deferred) (pre : List (CompletionUse x.allocation)) (w : Occasion) : Step :=
  ⟨w.thread, w.moment, w.refusal, .value w.probe (some (x.observed pre))⟩

/-- The identity under which it is recorded. -/
def identity (x : Deferred) (start : Scene) (pre : List (CompletionUse x.allocation)) (m : Moment) : ObjectId :=
  (x.scene start pre).recorder.identityOf m (some (x.observed pre))

theorem run_record (pre post : List (CompletionUse x.allocation)) :
    x.run (pre ++ .record w :: post) =
      x.run pre ++ x.recording pre w :: x.steps (Completion.unresolved.after pre) post := by
  rw [run, steps_append, steps]
  rfl

theorem scene_append (pre post : List (CompletionUse x.allocation)) : x.scene start (pre ++ post) =
    (x.scene start pre).after (x.steps (Completion.unresolved.after pre) post) := by
  unfold scene
  rw [run, steps_append, Scene.after_append]

theorem scene_record : x.scene start (pre ++ [.record w]) =
    ((x.scene start pre).act (x.recording pre w)).2 := scene_append pre _

/-- Uses that the recorder does not see. -/
theorem scene_unseen (unseen : x.step? (Completion.unresolved.after pre) use = none) :
    x.scene start (pre ++ [use]) = x.scene start pre := by
  rw [scene_append, steps, steps, unseen]
  rfl

end Deferred

/-! ## Failures -/

/-- **The recorder attends** to values of a type, on a thread and at a probe: those that are not skipped, it
    serializes. -/
structure Scene.Attends (s : Scene) (thread : Nat) (probe : ProbeId) (typeName : String) : Prop where
  active : s.suppressedOn thread = false
  detailed : s.recorder.mode = .detailed
  wanted : s.recorder.policy.allows .object = true
  recordable : probe ∈ s.recorder.recordable
  admits : s.recorder.exclusions.isExcluded typeName = false

theorem Scene.Attends.eligible {s : Scene} {thread : Nat} {probe : ProbeId} {typeName : String}
    {object : ObjectId} (h : s.Attends thread probe typeName) (unskipped : object ∉ s.recorder.skipped) :
    s.recorder.isEligible probe object = true :=
  Recorder.eligible_iff.mp ⟨h.detailed, h.wanted, h.recordable, unskipped⟩

namespace Deferred

variable {x : Deferred} {start : Scene} {pre mid post uses : List (CompletionUse x.allocation)}
  {use : CompletionUse x.allocation} {w : Occasion} {thread : Nat} {probe : ProbeId} {e : RecorderError}

/-- **A recording fails**: it is attended to, and what the completion was resolved with has no encoding. -/
structure FailsAt (x : Deferred) (start : Scene) (pre : List (CompletionUse x.allocation)) (w : Occasion)
    (e : RecorderError) : Prop where
  attended : (x.scene start pre).Attends w.thread w.probe x.typeName
  error : ∃ first, firstResolution pre = some first ∧ first.encoding start.recorder.codec = .error e

/-- **The completion failed** to be recorded. -/
def Failed (x : Deferred) (start : Scene) (uses : List (CompletionUse x.allocation)) : Prop :=
  ∃ pre w post e, uses = pre ++ .record w :: post ∧ x.FailsAt start pre w e

theorem Failed.append (h : x.Failed start uses) (post : List (CompletionUse x.allocation)) :
    x.Failed start (uses ++ post) := by
  obtain ⟨pre, w, rest, e, rfl, fails⟩ := h
  exact ⟨pre, w, rest ++ post, e, List.append_assoc _ _ _, fails⟩

theorem codec_scene (uses : List (CompletionUse x.allocation)) :
    (x.scene start uses).recorder.codec = start.recorder.codec := (start.after_extends _).codec

/-- Trying a completion of a type that is not excluded. -/
theorem attempt_subject (admits : (x.scene start pre).recorder.exclusions.isExcluded x.typeName = false) :
    (x.scene start pre).recorder.attempt (some (x.observed pre)) =
      .tried (Resolution.payload start.recorder.codec (firstResolution pre)) := by
  have plain : ((x.observed pre).shape.isOpaque ||
      (x.scene start pre).recorder.exclusions.isExcluded (x.observed pre).typeName) = false := admits
  have payload := Completion.payloadOf_eq (Completion.settled_after pre) start.recorder.codec
  rw [Completion.slot_unresolved_after] at payload
  rw [Recorder.attempt, plain, codec_scene, ← payload]
  rfl

/-- **What becomes of a completion** that the recorder attends to and does not skip. -/
theorem fate_of_attends (attends : (x.scene start pre).Attends w.thread w.probe x.typeName)
    (unskipped : x.identity start pre w.moment ∉ (x.scene start pre).recorder.skipped) :
    ((x.scene start pre).facing (x.recording pre w)).fate w.moment w.probe (some (x.observed pre)) =
      .tried (Resolution.payload start.recorder.codec (firstResolution pre)) :=
  (if_pos (attends.eligible unskipped)).trans (attempt_subject attends.admits)

/-- Only a resolution fails. -/
theorem payload_eq_error {codec : Codec} {first : Option Resolution}
    (h : Resolution.payload codec first = .error e) : ∃ r, first = some r ∧ r.encoding codec = .error e := by
  cases first with
  | none => cases h
  | some r => exact ⟨r, rfl, h⟩

/-- **What a recording can cost**: where the type is admitted, only failures cost anything. -/
theorem failsAt_of_bars (admits : (x.scene start pre).recorder.exclusions.isExcluded x.typeName = false)
    (bars : ((x.scene start pre).facing (x.recording pre w)).bars w.moment w.probe (some (x.observed pre)) =
      true) : ∃ e, x.FailsAt start pre w e := by
  -- Neither the thread nor what the sink refuses has a part in the attempt.
  have tried : ((x.scene start pre).facing (x.recording pre w)).attempt (some (x.observed pre)) = _ :=
    attempt_subject admits
  unfold Recorder.bars Recorder.fate at bars
  rw [Bool.and_eq_true, Bool.not_eq_true'] at bars
  obtain ⟨active, bars⟩ := bars
  split at bars
  · rename_i eligible
    obtain ⟨detailed, wanted, recordable, -⟩ := Recorder.eligible_iff.mpr eligible
    rw [tried] at bars
    cases payload : Resolution.payload start.recorder.codec (firstResolution pre) with
    | ok bytes =>
        rw [payload] at bars
        cases bars
    | error e => exact ⟨e, ⟨active, detailed, wanted, recordable, admits⟩, payload_eq_error payload⟩
  · cases bars

/-- A completion of an excluded type does not fail. -/
theorem admits_of_fails
    (fails : ((x.scene start pre).facing (x.recording pre w)).fails w.moment w.probe
      (some (x.observed pre)) = true) :
    (x.scene start pre).recorder.exclusions.isExcluded x.typeName = false := by
  rw [← Bool.not_eq_true]
  intro excluded
  have excludes : ((x.scene start pre).facing (x.recording pre w)).Excludes (x.observed pre) :=
    .inr (.inr excluded)
  unfold Recorder.fails Recorder.fate at fails
  rw [Bool.and_eq_true, Recorder.attempt_of_excludes excludes] at fails
  obtain ⟨-, fails⟩ := fails
  split at fails <;> cases fails

theorem failsAt_of_failure {y : ObjectId × Allocation}
    (failure : (x.scene start pre).failure? (x.recording pre w) = some y) :
    ∃ e, x.FailsAt start pre w e := by
  have fails : ((x.scene start pre).facing (x.recording pre w)).fails w.moment w.probe
      (some (x.observed pre)) = true := by
    unfold Scene.failure? recording at failure
    simp only at failure
    split at failure
    · assumption
    · cases failure
  exact failsAt_of_bars (admits_of_fails fails) (Recorder.bars_of_fails fails)

/-- **The completion is skipped only if it failed.** -/
theorem failed_of_mem_failures {id : ObjectId}
    (h : (id, x.allocation) ∈ start.failures (x.run uses)) : x.Failed start uses := by
  induction uses using List.reverseRecOn with
  | nil => exact nomatch h
  | append_singleton pre use ih =>
      rw [run_concat, Scene.failures_append] at h
      rcases List.mem_append.mp h with h | h
      · exact (ih h).append [use]
      · cases use with
        | record w =>
            have failure : (x.scene start pre).failure? (x.recording pre w)
                = some (id, x.allocation) := Scene.mem_failures_singleton.mp h
            obtain ⟨e, fails⟩ := failsAt_of_failure failure
            exact ⟨pre, w, [], e, rfl, fails⟩
        | other step apart =>
            have failure : (x.scene start pre).failure? step = some (id, x.allocation) :=
              Scene.mem_failures_singleton.mp h
            obtain ⟨probe, subject, action, here, -⟩ := Scene.removed_of_failure failure
            exact absurd here (apart subject (by rw [action]; rfl))
        | _ => exact nomatch h

/-! ## Runs -/

/-- **The completion was recorded** under a ruling. -/
def Recorded (x : Deferred) (start : Scene) (pre : List (CompletionUse x.allocation)) (w : Occasion)
    (ruling : Ruling) : Prop :=
  ((x.scene start pre).facing (x.recording pre w)).Recorded w.moment w.probe (some (x.observed pre))
    ruling (x.scene start (pre ++ [.record w])).recorder

/-- **A recording that is attended to** writes the payload of the first resolution, or its failure. -/
theorem recorded_of_attends (attends : (x.scene start pre).Attends w.thread w.probe x.typeName)
    (unskipped : x.identity start pre w.moment ∉ (x.scene start pre).recorder.skipped) :
    x.Recorded start pre w
      (Fate.tried (Resolution.payload start.recorder.codec (firstResolution pre))).ruling := by
  have recorded := Recorder.recordValue_recorded
    (r := (x.scene start pre).facing (x.recording pre w)) w.moment w.probe (some (x.observed pre))
    attends.active
  rw [fate_of_attends attends unskipped] at recorded
  unfold Recorded
  rw [scene_record]
  exact recorded

/-- **A recording costs nothing**: probe and completion are as good as before. -/
structure Spares (x : Deferred) (start : Scene) (pre : List (CompletionUse x.allocation)) (w : Occasion)
    (payload : Bytes) : Prop where
  recorded : x.Recorded start pre w ⟨some payload, .nothing⟩
  recordable : w.probe ∈ (x.scene start (pre ++ [.record w])).recorder.recordable
  unskipped : x.identity start pre w.moment ∉ (x.scene start (pre ++ [.record w])).recorder.skipped

/-- **A recording costs the probe and the completion**, whatever the program does afterwards. -/
structure Costs (x : Deferred) (start : Scene) (uses pre : List (CompletionUse x.allocation)) (w : Occasion)
    (e : RecorderError) : Prop where
  recorded : x.Recorded start pre w ⟨some (Payload.failure e.message), .probeAndValue⟩
  skipped : ∀ mid, x.identity start pre w.moment ∈
    (x.scene start (pre ++ .record w :: mid)).recorder.skipped
  /-- Later recordings of the completion only identify it, and none of its code is run. -/
  ignored : ∀ later mid w' post, later = pre ++ .record w :: mid →
    uses = later ++ .record w' :: post →
    x.identity start later w'.moment = x.identity start pre w.moment ∧
      ((x.scene start later).facing (x.recording later w')).Ignores w'.moment w'.probe (x.observed later) ∧
      Recorder.WithoutPayload ((x.scene start later).turn (x.recording later w')).written
  /-- The probe is without values until the program names it again. -/
  barred : ∀ mid, (∀ use ∈ mid, w.probe ∉ use.named) →
    w.probe ∉ (x.scene start (pre ++ .record w :: mid)).recorder.recordable ∧
      ∀ step, (x.scene start (pre ++ .record w :: mid)).Barred step w.probe

/-- **How a completion is recorded** in a run. -/
structure Recordings (x : Deferred) (start : Scene) (uses : List (CompletionUse x.allocation)) : Prop where
  unavailable : ∀ pre w post, uses = pre ++ .record w :: post →
    (x.scene start pre).Attends w.thread w.probe x.typeName → firstResolution pre = none →
    x.Spares start pre w Payload.unavailable
  encoded : ∀ pre w post first payload, uses = pre ++ .record w :: post →
    (x.scene start pre).Attends w.thread w.probe x.typeName → firstResolution pre = some first →
    first.encoding start.recorder.codec = .ok payload → x.Spares start pre w payload
  /-- The first recording that fails. -/
  failed : ∀ pre w post e, uses = pre ++ .record w :: post →
    x.FailsAt start pre w e → ¬ x.Failed start pre → x.Costs start uses pre w e
  /-- Until then, no use of the completion changes what the recorder attends to. -/
  attends : ∀ pre mid post thread probe, uses = pre ++ (mid ++ post) → (∀ use ∈ mid, use.isOwn = true) →
    ¬ x.Failed start (pre ++ mid) → (x.scene start pre).Attends thread probe x.typeName →
    (x.scene start (pre ++ mid)).Attends thread probe x.typeName

/-- A completion that did not fail is not skipped. -/
theorem unskipped_of_not_failed (skips : start.SkipsOnlyFailed (x.run (pre ++ .record w :: post)))
    (unfailed : ¬ x.Failed start pre) : x.identity start pre w.moment ∉ (x.scene start pre).recorder.skipped := by
  intro skipped
  obtain ⟨id, failed⟩ := (skips.value _ _ _ w.probe _ (run_record pre post) rfl).mp skipped
  exact unfailed (failed_of_mem_failures failed)

/-- Failing, the first resolution has no encoding. -/
theorem encoding_of_failed (failed : x.Failed start pre) :
    ∃ first e, firstResolution pre = some first ∧ first.encoding start.recorder.codec = .error e := by
  obtain ⟨before, w, post, e, rfl, -, first, resolved, error⟩ := failed
  exact ⟨first, e, firstResolution_append resolved _, error⟩

/-- Recordings before the first resolution are no failures. -/
theorem not_failed_of_unresolved (unresolved : firstResolution pre = none)
    (quiet : ∀ w, .record w ∉ mid) : ¬ x.Failed start (pre ++ mid) := by
  rintro ⟨before, w, post, e, split, -, first, resolved, -⟩
  rcases List.append_eq_append_iff.mp split with ⟨between, -, rfl⟩ | ⟨rest, rfl, -⟩
  · exact quiet w (List.mem_append_right _ List.mem_cons_self)
  · rw [firstResolution_append resolved] at unresolved
    cases unresolved

/-- **Recordings that succeed cost nothing.** -/
theorem spares_of_payload {payload : Bytes}
    (skips : start.SkipsOnlyFailed (x.run (pre ++ .record w :: post)))
    (attends : (x.scene start pre).Attends w.thread w.probe x.typeName)
    (made : Resolution.payload start.recorder.codec (firstResolution pre) = .ok payload) :
    x.Spares start pre w payload := by
  have unfailed : ¬ x.Failed start pre := by
    intro failed
    obtain ⟨first, e, resolved, error⟩ := encoding_of_failed failed
    rw [resolved] at made
    exact nomatch error.symm.trans made
  have unskipped := unskipped_of_not_failed skips unfailed
  have recorded : x.Recorded start pre w _ := recorded_of_attends attends unskipped
  rw [made] at recorded
  refine ⟨recorded, (recorded.recordable w.probe).mpr ⟨attends.recordable, fun lost => absurd rfl lost⟩, ?_⟩
  intro skipped
  rcases (recorded.skipped _).mp skipped with old | ⟨lost, -⟩
  · exact unskipped old
  · cases lost

/-- What a recording costs is among the failures. -/
theorem mem_failures_of_failsAt (fails : x.FailsAt start pre w e)
    (unskipped : x.identity start pre w.moment ∉ (x.scene start pre).recorder.skipped) :
    (x.identity start pre w.moment, x.allocation) ∈
      start.failures (x.run (pre ++ .record w :: mid)) := by
  obtain ⟨first, resolved, error⟩ := fails.error
  have active : ((x.scene start pre).facing (x.recording pre w)).suppressed = false := fails.attended.active
  have failed : ((x.scene start pre).facing (x.recording pre w)).fails w.moment w.probe
      (some (x.observed pre)) = true := by
    unfold Recorder.fails
    rw [fate_of_attends fails.attended unskipped, active, resolved, Resolution.payload, error]
    rfl
  have failure : (x.scene start pre).failure? (x.recording pre w) =
      some (x.identity start pre w.moment, x.allocation) := if_pos failed
  rw [run_record, Scene.failures_append, Scene.failures, ← scene, failure]
  exact List.mem_append_right _ (List.mem_append_left _ List.mem_cons_self)

/-- The probes that uses name are those that their steps name. -/
theorem not_mem_named (unnamed : ∀ use ∈ mid, probe ∉ use.named) :
    ∀ c : Completion, ∀ step ∈ x.steps c mid, probe ∉ step.action.named := by
  induction mid with
  | nil => exact fun _ _ h => nomatch h
  | cons use rest ih =>
      intro c step h
      rcases List.mem_append.mp h with h | h
      · have here := unnamed use List.mem_cons_self
        cases use with
        | record w =>
            obtain rfl := List.mem_singleton.mp h
            exact List.not_mem_nil
        | other step apart =>
            obtain rfl := List.mem_singleton.mp h
            exact here
        | _ => exact nomatch h
      · exact ih (fun use huse => unnamed use (List.mem_cons_of_mem _ huse)) _ step h

/-- A probe that is lost stays lost until it is named. -/
theorem not_recordable_append (lost : probe ∉ (x.scene start pre).recorder.recordable)
    (unnamed : ∀ use ∈ mid, probe ∉ use.named) :
    probe ∉ (x.scene start (pre ++ mid)).recorder.recordable := by
  rw [scene_append]
  intro h
  rcases Scene.mem_recordable_of_after h with old | ⟨step, hstep, named⟩
  · exact lost old
  · exact not_mem_named unnamed _ step hstep named

/-- **The first failure costs the probe and the completion.** -/
theorem costs_of_failsAt (orderly : start.Orderly .empty 0 []) (embodied : Embodied .empty (x.run uses))
    (room : identitiesIn (x.run uses) < UInt64.size) (split : uses = pre ++ .record w :: post)
    (fails : x.FailsAt start pre w e) (unfailed : ¬ x.Failed start pre) :
    x.Costs start uses pre w e := by
  have skips := orderly.skipsFailed embodied
  have only := orderly.skipsOnlyFailed embodied room
  have unskipped : x.identity start pre w.moment ∉ (x.scene start pre).recorder.skipped := by
    rw [split] at only
    exact unskipped_of_not_failed only unfailed
  obtain ⟨first, resolved, error⟩ := fails.error
  have recorded : x.Recorded start pre w _ := recorded_of_attends fails.attended unskipped
  rw [resolved, Resolution.payload, error] at recorded
  have notNull : x.identity start pre w.moment ≠ nullObject := by
    refine only.notNull (x.identity start pre w.moment, x.allocation) ?_
    rw [split]
    exact mem_failures_of_failsAt fails unskipped
  have skipped : x.identity start pre w.moment ∈
      (x.scene start (pre ++ [.record w])).recorder.skipped :=
    (recorded.skipped _).mpr (.inr ⟨rfl, rfl, notNull⟩)
  have lost : w.probe ∉ (x.scene start (pre ++ [.record w])).recorder.recordable :=
    fun h => ((recorded.recordable w.probe).mp h).2 nofun rfl
  refine ⟨recorded, fun mid => ?_, ?_, fun mid unnamed => ?_⟩
  · rw [List.append_cons, scene_append]
    exact Scene.mem_skipped_after skipped
  · rintro later mid w' post' rfl hsplit
    rw [hsplit, run_record] at skips
    exact skips.ignored _ _ _ w'.probe _ _ rfl rfl (mem_failures_of_failsAt fails unskipped) notNull
  · rw [List.append_cons]
    have gone := not_recordable_append lost unnamed
    exact ⟨gone, fun step => Scene.barred_of_not_mem gone⟩

/-- **One use** of a completion that did not fail changes nothing that the recorder attends to. -/
theorem attends_concat (own : use.isOwn = true) (unfailed : ¬ x.Failed start (pre ++ [use]))
    (attends : (x.scene start pre).Attends thread probe x.typeName) :
    (x.scene start (pre ++ [use])).Attends thread probe x.typeName := by
  cases use with
  | other _ _ => cases own
  | record w =>
      rw [scene_record]
      obtain ⟨r, es, framed⟩ := (x.scene start pre).act_framed (x.recording pre w)
      have kept : (x.scene start pre).removed? (x.recording pre w) ≠ some probe := by
        intro removed
        have bars : ((x.scene start pre).facing (x.recording pre w)).bars w.moment w.probe
            (some (x.observed pre)) = true := by
          unfold Scene.removed? recording at removed
          simp only at removed
          split at removed
          · assumption
          · cases removed
        obtain ⟨e, fails⟩ := failsAt_of_bars attends.admits bars
        exact unfailed ⟨pre, w, [], e, rfl, fails⟩
      constructor
      · rw [Scene.suppressedOn_act _ _ rfl]
        exact attends.active
      · rw [framed.logs.mode, framed.rest]
        exact attends.detailed
      · rw [framed.logs.policy, framed.rest]
        exact attends.wanted
      · exact (Scene.mem_recordable_act attends.recordable).mpr kept
      · rw [framed.logs.exclusions, framed.rest]
        exact attends.admits
  | _ =>
      rw [scene_unseen rfl]
      exact attends

/-- **Any number of uses.** -/
theorem attends_append (own : ∀ use ∈ mid, use.isOwn = true) (unfailed : ¬ x.Failed start (pre ++ mid))
    (attends : (x.scene start pre).Attends thread probe x.typeName) :
    (x.scene start (pre ++ mid)).Attends thread probe x.typeName := by
  induction mid using List.reverseRecOn with
  | nil => rwa [List.append_nil]
  | append_singleton mid use ih =>
      rw [← List.append_assoc] at unfailed ⊢
      have before := ih (fun use huse => own use (List.mem_append_left _ huse))
        fun failed => unfailed (failed.append [use])
      exact attends_concat (own use (List.mem_append_right _ List.mem_cons_self)) unfailed before

theorem recordings (orderly : start.Orderly .empty 0 []) (embodied : Embodied .empty (x.run uses))
    (room : identitiesIn (x.run uses) < UInt64.size) : x.Recordings start uses where
  unavailable := by
    rintro pre w post rfl attends unresolved
    exact spares_of_payload (orderly.skipsOnlyFailed embodied room) attends (by rw [unresolved]; rfl)
  encoded := by
    rintro pre w post first payload rfl attends resolved made
    exact spares_of_payload (orderly.skipsOnlyFailed embodied room) attends (by rw [resolved]; exact made)
  failed := fun _ _ _ _ split fails unfailed =>
    costs_of_failsAt orderly embodied room split fails unfailed
  attends := fun _ _ _ _ _ _ own unfailed attends => attends_append own unfailed attends

end Deferred

/-- **Completions are assigned once, and waiting in vain costs nothing.** Every use reports the first
    resolution, and so does every recording that is attended to. -/
theorem run_assignedOnce {o : RecorderOptions} {sink : Sink} {r : Recorder} {x : Deferred}
    {uses : List (CompletionUse x.allocation)} (built : Recorder.build o sink = .ok r)
    (fresh : ∃ capacity typeCapacity, o.identities = .new capacity typeCapacity)
    (embodied : Embodied .empty (x.run uses)) (room : identitiesIn (x.run uses) < UInt64.size) :
    (∀ pre use post, uses = pre ++ use :: post →
      (Completion.unresolved.after pre).answer use = use.expected (firstResolution pre)) ∧
      x.Recordings r.scene uses :=
  ⟨fun pre use _ _ => Completion.answer_eq pre use,
    Deferred.recordings (Scene.orderly_scene built fresh) embodied room⟩

/-- A completion that is waited for in vain, fails, and cannot be completed any more. -/
def lateResult : Deferred := ⟨⟨7, 0⟩, "app.Result"⟩

/-- A recording at some time. -/
def lateRecording (time : UInt64) (probe : ProbeId) : Occasion :=
  ⟨0, ⟨firstMemory, ⟨time, "main"⟩, 2⟩, fun _ => none, probe⟩

def lateUses : List (CompletionUse lateResult.allocation) :=
  [.other ⟨0, ⟨.empty, ⟨0, "main"⟩, 1⟩, fun _ => none, .mark [1, 2]⟩ nofun,
   .record (lateRecording 1 1), .resolve (.failure "lost") nofun, .resolve (.failure "again") nofun, .wait,
   .record (lateRecording 2 1), .record (lateRecording 3 2)]

theorem embodied_lateUses : Embodied .empty (lateResult.run lateUses) := by
  have first : Heap.empty.Evolves firstMemory := .allocate .refl 7 fun b live => nomatch live
  refine ⟨.refl, fun _ h => (nomatch h), first, ?_, .refl, ?_, .refl, ?_, trivial⟩
  · rintro _ ⟨⟩
    decide
  · rintro _ ⟨⟩
    decide
  · rintro _ ⟨⟩
    decide

theorem run_assignedOnce_late : ∃ r, Recorder.build .capturing .empty = .ok r ∧
    (eventsOf (logOf (r.scene.history (lateResult.run lateUses)))).map
      (fun e => (e.probe, e.value, e.payload.isSome)) = [(1, 1, true), (1, 1, true), (2, 1, false)] ∧
    (Completion.unresolved.after (lateUses.take 3)).answer
      (.resolve (.failure "again") nofun : CompletionUse lateResult.allocation) = .took false ∧
    (Completion.unresolved.after (lateUses.take 4)).answer (.wait : CompletionUse lateResult.allocation) =
      .waited (some (.error (Completion.failureError "lost"))) ∧
    lateResult.Spares r.scene (lateUses.take 1) (lateRecording 1 1) Payload.unavailable ∧
    lateResult.Costs r.scene lateUses (lateUses.take 5) (lateRecording 2 1)
      (Completion.failureError "lost") := by
  have built := Recorder.build_capturing .empty
  obtain ⟨answers, recordings⟩ := run_assignedOnce built ⟨65536, 1024, rfl⟩ embodied_lateUses (by decide)
  refine ⟨_, built, by decide, answers (lateUses.take 3) _ (lateUses.drop 4) rfl,
    answers (lateUses.take 4) _ (lateUses.drop 5) rfl, ?_, ?_⟩
  · exact recordings.unavailable _ _ (lateUses.drop 2) rfl ⟨rfl, rfl, rfl, by decide, by decide⟩ rfl
  · refine recordings.failed _ _ (lateUses.drop 6) _ rfl
      ⟨⟨rfl, rfl, rfl, by decide, by decide⟩, _, rfl, rfl⟩ ?_
    show ¬ lateResult.Failed _ (lateUses.take 2 ++ (lateUses.take 5).drop 2)
    exact Deferred.not_failed_of_unresolved rfl
      fun w h => by simp [lateUses] at h

end ProbeRecorder
