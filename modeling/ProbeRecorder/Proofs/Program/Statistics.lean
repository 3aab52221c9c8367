import ProbeRecorder.Proofs.Program.Permanence
import ProbeRecorder.Proofs.Recorder.Submissions

/-!
# `ProbeRecorder.Proofs.Program.Statistics` — the counters account for every event

Each step hands the sink at most one event, and the counters of a run say what became of all of them: how
many the sink took and refused, how many of those taken were written for which purpose, how often a value
or an outcome could not be serialized, and how often a probe lost its values because of a type or a shape.

## Contents
- **Steps.** `Scene.drafts`, what a step writes, and `Scene.excludedBy`; `Scene.offered`, the events that a
  step has for the sink, seen by giving it a sink that keeps everything.
- **One step.** `act_submits`, and the events of its turn.
- **Runs.** `Scene.submitted` and `Scene.exclusions`; `after_submits`.
- **Removals.** An exclusion is a removal from the recordable probes (`mem_excludedBy_iff_lost`).
- **Accounting.** `Scene.Counted`, of every run of a recorder that is built (`run_counted`).
-/

namespace ProbeRecorder
namespace Scene

/-! ## Steps -/

/-- **What a step writes**, if the sink takes it. -/
def drafts (s : Scene) (step : Step) : List Draft :=
  let r := s.facing step
  let m := step.moment
  match step.action with
  | .scalar probe value => r.whenActive [⟨.ordinary m.stamp probe value.encode none, .scalar⟩]
  | .value probe value => r.whenActive [(r.fate m probe value).draft m probe (r.identityOf m value)]
  | .wrap w => r.whenActive [r.callDraft m w.probe w.typeName]
  | .poll k =>
    match s.wrapper? k with
    | some p => p.drafts m r.codec
    | none => []
  | _ => []

/-- **What a step hands to the sink**, with the sink's answers. -/
def submissions (s : Scene) (step : Step) : List Submission :=
  (s.drafts step).map (s.facing step).submission

/-- **The probe that loses its values** in a step, because of a type or a shape. -/
def excludedBy (s : Scene) (step : Step) : List ProbeId :=
  match step.action with
  | .value probe value =>
    (s.facing step).whenActive
      (if ((s.facing step).fate step.moment probe value).excludes then [probe] else [])
  | .wrap w => if (s.facing step).declines w.probe w.typeName then [w.probe] else []
  | _ => []

/-- The scene with a sink that keeps what it takes. -/
def keeping (s : Scene) : Scene := { s with recorder := { s.recorder with discards := false } }

/-- **The events that a step has for the sink**: those it writes if the sink keeps everything. -/
def offered (s : Scene) (step : Step) : List Event :=
  eventsOf (s.keeping.turn { step with refusal := fun _ => none }).written

/-- **What a step meets at the probe is of an excluded type or shape.** -/
def MeetsExcluded (s : Scene) (step : Step) (p : ProbeId) : Prop :=
  (∃ subject, step.action = .value p (some subject) ∧
    (subject.shape.isOpaque || s.recorder.exclusions.isExcluded subject.typeName) = true) ∨
  ∃ w, step.action = .wrap w ∧ w.probe = p ∧ s.recorder.exclusions.isExcluded w.typeName = true

/-! ## One step -/

variable {s : Scene} {step : Step}

/-- **One step** hands over what it writes, and counts it. -/
theorem act_submits (s : Scene) (step : Step) :
    s.recorder.Submits (s.submissions step) (s.excludedBy step) (s.act step).2.recorder := by
  -- What the sink refuses in this step decides about its answers, and about nothing else here.
  have facing : ∀ {xs ps t}, (s.facing step).Submits xs ps t → s.recorder.Submits xs ps t :=
    fun h => ⟨h.events, h.stats⟩
  have quiet : ∀ {t : Recorder}, t.sink.events = s.recorder.sink.events → t.stats = s.recorder.stats →
      s.recorder.Submits [] [] t := fun events stats => Recorder.submits_nil events stats
  unfold act perform submissions drafts excludedBy
  cases action : step.action with
  | scalar probe value => exact facing ((s.facing step).recordScalar_submits step.moment probe value)
  | value probe value =>
      have recorded := (s.facing step).recordValue_submits step.moment probe value
      cases value <;> exact facing recorded
  | wrap w =>
      simp only
      rw [wrap_eq]
      exact facing ((s.facing step).openCall_submits step.moment w.probe w.typeName)
  | poll k =>
      cases present : s.wrapper? k with
      | none =>
          simp only [present]
          rw [poll_of_none present]
          exact quiet rfl rfl
      | some p =>
          simp only [present]
          rw [poll_of_some present]
          exact facing (p.advance_submits step.moment (s.facing step))
  | register b => exact facing ((s.facing step).registerBatch_submits b)
  | release g =>
      simp only
      unfold release
      split <;> exact quiet rfl rfl
  | _ => exact quiet rfl rfl

/-- What a step brings to the log, event by event. -/
theorem events_turn (s : Scene) (step : Step) :
    eventsOf (s.turn step).written = s.recorder.entered (s.submissions step) := by
  have submitted := (s.act_submits step).events
  unfold Sink.events at submitted
  rw [(s.turn_effect step).1.log, eventsOf_append] at submitted
  exact List.append_cancel_left submitted

/-- The sink takes what it does not refuse. -/
theorem taken_iff {x : Submission} (h : x ∈ s.submissions step) :
    x.taken = true ↔ s.recorder.discards = true ∨ step.refusal (Sink.callFor x.event) = none := by
  obtain ⟨d, _, rfl⟩ := List.mem_map.mp h
  show (s.recorder.discards || (step.refusal (Sink.callFor d.event)).isNone) = true ↔ _
  rw [Bool.or_eq_true, Option.isNone_iff_eq_none]
  rfl

/-- **The events that a step has for the sink** are the ones it hands over: each once, and no others. -/
theorem offered_eq (s : Scene) (step : Step) : s.offered step = (s.submissions step).map (·.event) := by
  have all : (s.keeping.submissions { step with refusal := fun _ => none }).filter Submission.taken =
      s.keeping.submissions { step with refusal := fun _ => none } :=
    List.filter_eq_self.mpr fun x hx => (taken_iff hx).mpr (.inr rfl)
  -- No draft depends on the sink: they are the same for a sink that keeps everything.
  have drafts : s.keeping.drafts { step with refusal := fun _ => none } = s.drafts step := rfl
  have keeps : s.keeping.recorder.discards = false := rfl
  unfold offered
  rw [events_turn]
  unfold Recorder.entered
  rw [keeps, if_neg Bool.false_ne_true, all]
  unfold submissions
  rw [drafts, List.map_map, List.map_map]
  rfl

/-- **What is written suits its purpose.** -/
theorem drafts_suit {d : Draft} (h : d ∈ s.drafts step) : d.Suits := by
  unfold drafts at h
  cases action : step.action with
  | scalar probe value =>
      rw [action] at h
      rw [Recorder.eq_of_mem_whenActive h]
      exact ⟨rfl, rfl⟩
  | value probe value =>
      rw [action] at h
      rw [Recorder.eq_of_mem_whenActive h]
      exact Fate.draft_suits _ _ _ _
  | wrap w =>
      rw [action] at h
      rw [Recorder.eq_of_mem_whenActive h]
      exact (s.facing step).callDraft_suits _ _ _
  | poll k =>
      rw [action] at h
      simp only at h
      split at h
      · rename_i p _
        unfold Producer.drafts at h
        split at h
        · rw [List.mem_singleton.mp h]
          exact OpenCall.draft_suits _ _ _ _
        · cases h
      · cases h
  | _ =>
      rw [action] at h
      cases h

/-! ## Runs -/

/-- **Everything that a run hands to the sink**, in order. -/
def submitted (s : Scene) : List Step → List Submission
  | [] => []
  | step :: rest => s.submissions step ++ (s.act step).2.submitted rest

/-- **The probes that lose their values** in a run, because of types or shapes. -/
def exclusions (s : Scene) : List Step → List ProbeId
  | [] => []
  | step :: rest => s.excludedBy step ++ (s.act step).2.exclusions rest

/-- **A run** hands over what its steps hand over, and counts it. -/
theorem after_submits : ∀ (steps : List Step) (s : Scene),
    s.recorder.Submits (s.submitted steps) (s.exclusions steps) (s.after steps).recorder := by
  intro steps
  induction steps with
  | nil => exact fun s => Recorder.Submits.refl s.recorder
  | cons step rest ih =>
      intro s
      exact (s.act_submits step).trans (s.turn_effect step).1.discards (ih (s.act step).2)

/-- The events of a run are those that the sink took. -/
theorem events_history (s : Scene) (steps : List Step) :
    eventsOf (logOf (s.history steps)) = s.recorder.entered (s.submitted steps) := by
  have submitted := (s.after_submits steps).events
  unfold Sink.events at submitted
  rw [(s.after_extends steps).log, eventsOf_append] at submitted
  exact List.append_cancel_left submitted

theorem mem_submitted {x : Submission} : ∀ {steps : List Step} {s : Scene}, x ∈ s.submitted steps →
    ∃ pre step post, steps = pre ++ step :: post ∧ x ∈ (s.after pre).submissions step := by
  intro steps
  induction steps with
  | nil => exact fun h => nomatch h
  | cons step rest ih =>
      intro s h
      rcases List.mem_append.mp h with h | h
      · exact ⟨[], step, rest, rfl, h⟩
      · obtain ⟨pre, later, post, rfl, hx⟩ := ih h
        exact ⟨step :: pre, later, post, rfl, hx⟩

/-! ## Removals -/

theorem mem_whenActive {r : Recorder} {c : Bool} {p probe : ProbeId} :
    p ∈ r.whenActive (if c then [probe] else []) ↔ r.suppressed = false ∧ c = true ∧ p = probe := by
  unfold Recorder.whenActive
  cases r.suppressed <;> cases c <;> simp

/-- A value that is eligible is excluded for its type or shape, and for nothing else. -/
theorem excludes_iff {r : Recorder} {m : Moment} {probe : ProbeId} {value : Option Subject} :
    (r.fate m probe value).excludes = true ↔
      r.isEligible probe (r.identityOf m value) = true ∧ ∃ subject, value = some subject ∧
        (subject.shape.isOpaque || r.exclusions.isExcluded subject.typeName) = true := by
  unfold Recorder.fate
  cases r.isEligible probe (r.identityOf m value) with
  | false => simp [Fate.excludes]
  | true =>
      cases value with
      | none => simp [Recorder.attempt, Fate.excludes]
      | some subject =>
          simp only [if_true, Recorder.attempt, true_and, Option.some.injEq, exists_eq_left']
          cases subject.shape.isOpaque || r.exclusions.isExcluded subject.typeName <;> simp [Fate.excludes]

/-- A value costs its probe something only if it is eligible. -/
theorem eligible_of_bars {r : Recorder} {m : Moment} {probe : ProbeId} {value : Option Subject}
    (h : r.bars m probe value = true) :
    r.suppressed = false ∧ r.isEligible probe (r.identityOf m value) = true := by
  unfold Recorder.bars Recorder.fate at h
  rw [Bool.and_eq_true, Bool.not_eq_true'] at h
  obtain ⟨active, bars⟩ := h
  split at bars
  · exact ⟨active, ‹_›⟩
  · cases bars

/-- **The probes that are excluded** are those that the step costs their values, because of what it meets
    there. -/
theorem mem_excludedBy {p : ProbeId} :
    p ∈ s.excludedBy step ↔ s.removed? step = some p ∧ s.MeetsExcluded step p := by
  unfold excludedBy removed? MeetsExcluded
  cases action : step.action with
  | value probe value =>
      simp only
      rw [mem_whenActive, excludes_iff]
      constructor
      · rintro ⟨active, ⟨eligible, subject, rfl, excluded⟩, rfl⟩
        have bars : (s.facing step).bars step.moment p (some subject) = true := by
          have excludes := excludes_iff.mpr ⟨eligible, subject, rfl, excluded⟩
          unfold Recorder.bars
          rw [active]
          generalize (s.facing step).fate step.moment p (some subject) = fate at excludes ⊢
          cases fate <;> simp_all [Fate.bars, Fate.excludes]
        rw [if_pos bars]
        exact ⟨rfl, .inl ⟨subject, rfl, excluded⟩⟩
      · rintro ⟨removed, ⟨subject, same, excluded⟩ | ⟨w, absurd, _⟩⟩
        · obtain ⟨rfl, rfl⟩ := Action.value.inj same
          split at removed
          · obtain ⟨active, eligible⟩ := eligible_of_bars ‹_›
            exact ⟨active, ⟨eligible, subject, rfl, excluded⟩, rfl⟩
          · cases removed
        · cases absurd
  | wrap w =>
      have excluded : (s.facing step).declines w.probe w.typeName = true →
          s.recorder.exclusions.isExcluded w.typeName = true := by
        unfold Recorder.declines
        rw [Bool.and_eq_true]
        exact And.right
      simp only
      split
      · rw [List.mem_singleton, Option.some.injEq]
        constructor
        · rintro rfl
          exact ⟨rfl, .inr ⟨w, rfl, rfl, excluded ‹_›⟩⟩
        · exact fun h => h.1.symm
      · simp
  | _ => simp

/-- Only a recordable probe loses anything. -/
theorem mem_recordable_of_removed {p : ProbeId} (h : s.removed? step = some p) : p ∈ s.recorder.recordable := by
  show p ∈ (s.facing step).recordable
  unfold removed? at h
  split at h
  · split at h
    · obtain rfl := Option.some.inj h
      exact Recorder.mem_recordable_of_eligible (eligible_of_bars ‹_›).2
    · cases h
  · split at h
    · rename_i declines
      obtain rfl := Option.some.inj h
      simp only [Recorder.declines, Bool.and_eq_true] at declines
      exact Recorder.mem_recordable_of_eligible declines.1.2
    · cases h
  · cases h

/-- **An exclusion is a removal** from the recordable probes, because of an excluded type or shape. -/
theorem mem_excludedBy_iff_lost {p : ProbeId} :
    p ∈ s.excludedBy step ↔ p ∈ s.recorder.recordable ∧ p ∉ (s.act step).2.recorder.recordable ∧
      s.MeetsExcluded step p := by
  rw [mem_excludedBy]
  constructor
  · rintro ⟨removed, excluded⟩
    exact ⟨mem_recordable_of_removed removed, not_mem_of_removed removed, excluded⟩
  · rintro ⟨recordable, lost, excluded⟩
    rw [mem_recordable_act recordable, not_not] at lost
    exact ⟨lost, excluded⟩

theorem excludedBy_nodup (s : Scene) (step : Step) : (s.excludedBy step).Nodup := by
  unfold excludedBy Recorder.whenActive
  repeat' split
  all_goals simp

/-! ## Accounting -/

/-- **The counters account for every event** of a run, whatever the sink refuses. -/
structure Counted (start : Scene) (steps : List Step) : Prop where
  /-- What a step has for the sink is handed over once, and nothing else is. -/
  offered : ∀ pre step post, steps = pre ++ step :: post →
    ((start.after pre).submissions step).map (fun x => x.event) = (start.after pre).offered step
  /-- The sink takes what it does not refuse; a recorder that keeps nothing has a sink that takes everything. -/
  answered : ∀ pre step post x, steps = pre ++ step :: post → x ∈ (start.after pre).submissions step →
    (x.taken = true ↔ start.recorder.discards = true ∨ step.refusal (Sink.callFor x.event) = none)
  written : start.recorder.discards = false →
    eventsOf (logOf (start.history steps)) =
      ((start.submitted steps).filter fun x => x.taken).map fun x => x.event
  suited : ∀ x ∈ start.submitted steps, x.Suits
  /-- The exclusions are the removals from the recordable probes because of an excluded type or shape. -/
  excluded : ∀ pre step post, steps = pre ++ step :: post →
    ((start.after pre).excludedBy step).Nodup ∧ ∀ p, p ∈ (start.after pre).excludedBy step ↔
      p ∈ (start.after pre).recorder.recordable ∧ p ∉ (start.after (pre ++ [step])).recorder.recordable ∧
        (start.after pre).MeetsExcluded step p
  stats : (start.after steps).recorder.stats = tally (start.submitted steps) (start.exclusions steps)
  /-- Every event that was taken has a counter for its purpose, or is a scalar or a value's diagnostic. -/
  balance : (start.after steps).recorder.stats.emitted =
    (start.after steps).recorder.stats.serialized + (start.after steps).recorder.stats.identityOnly +
      (start.after steps).recorder.stats.asyncAnchors + (start.after steps).recorder.stats.asyncCompletions +
      takenFor (· = .scalar) (start.submitted steps) + takenFor (· = .diagnostic) (start.submitted steps)

/-- **Every run accounts for its events**, from a scene whose counters are at zero. -/
theorem counted {start : Scene} (zero : start.recorder.stats = {}) (steps : List Step) :
    start.Counted steps := by
  have discards : ∀ pre, (start.after pre).recorder.discards = start.recorder.discards :=
    fun pre => (start.after_extends pre).discards
  have stats : (start.after steps).recorder.stats = tally (start.submitted steps) (start.exclusions steps) := by
    rw [(start.after_submits steps).stats, zero, RecorderStats.zero_add]
  refine ⟨?_, ?_, ?_, ?_, ?_, stats, ?_⟩
  · exact fun pre step _ _ => ((start.after pre).offered_eq step).symm
  · intro pre step _ x _ hx
    rw [taken_iff hx, discards]
  · intro keeps
    rw [events_history]
    unfold Recorder.entered
    rw [keeps, if_neg Bool.false_ne_true]
  · intro x hx
    obtain ⟨pre, step, _, _, hx⟩ := mem_submitted hx
    obtain ⟨d, hd, rfl⟩ := List.mem_map.mp hx
    exact drafts_suit hd
  · intro pre step _ _
    refine ⟨(start.after pre).excludedBy_nodup step, fun p => ?_⟩
    rw [after_append]
    exact mem_excludedBy_iff_lost
  · rw [stats]
    exact tally_balance _ _

end Scene

/-- **The statistics account for every event**, in every run of a recorder that is built. -/
theorem run_counted {o : RecorderOptions} {sink : Sink} {r : Recorder}
    (built : Recorder.build o sink = .ok r) (steps : List Step) : r.scene.Counted steps := by
  obtain ⟨policy, rfl⟩ := Recorder.eq_withPolicy_of_build built
  exact Scene.counted rfl steps

/-- A value that cannot be serialized without consuming it. -/
def lazyValue : Subject := .mk ⟨8, 1⟩ "app.Rows" .lazySequence (.done (.value .null))

/-- A run in which the sink refuses a scalar and an anchor; a value and an outcome cannot be serialized, and a
    probe is excluded. -/
def mixedSteps : List Step :=
  let moment : Moment := ⟨(firstMemory.allocate 8).2, ⟨5, "main"⟩, 6⟩
  let takes : SinkCall → Option RecorderError := fun _ => none
  let refuses : SinkCall → Option RecorderError := fun _ => some ⟨.sink, "disk full"⟩
  [⟨0, moment, takes, .mark [1, 2, 3]⟩,
   ⟨0, moment, takes, .scalar 9 (.bool true)⟩,
   ⟨0, moment, refuses, .scalar 9 (.bool false)⟩,
   ⟨0, moment, takes, .value 1 (some brokenValue)⟩,
   ⟨0, moment, takes, .value 2 (some lazyValue)⟩,
   ⟨0, moment, refuses, .wrap ⟨3, "app.Fetch", .single, [.ready (.value (.done (.panic none)))], .pending, 0⟩⟩,
   ⟨0, moment, takes, .poll 0⟩]

theorem run_counted_mixed :
    ∃ r, Recorder.build .capturing .empty = .ok r ∧
      ((r.scene.submitted mixedSteps).map fun x => (x.purpose, x.taken)) =
        [(.scalar, true), (.scalar, false), (.diagnostic, true), (.identity, true), (.anchor, false),
         (.completion true, true)] ∧
      r.scene.exclusions mixedSteps = [2] ∧
      (r.scene.after mixedSteps).recorder.stats =
        { emitted := 4, identityOnly := 1, serializationFailures := 2, probesExcluded := 1, sinkFailures := 2
          asyncCompletions := 1 } ∧
      r.scene.Counted mixedSteps := by
  have built := Recorder.build_capturing .empty
  exact ⟨_, built, by decide, by decide, by decide, run_counted built mixedSteps⟩

end ProbeRecorder
