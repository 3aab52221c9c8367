import ProbeRecorder.Proofs.Program.Registrations
import ProbeRecorder.Proofs.Program.Statistics
import ProbeRecorder.Proofs.Program.Suppression

/-!
# `ProbeRecorder.Proofs.Program.Modes` — recorders that never serialize

A recorder serializes values in one mode only, and only if its policy allows objects. Neither ever changes.
Without both, no value is eligible, and no way leads around eligibility: no code of observed values or
outcomes is run, whatever it would do, and nothing that is written carries anything.

## Contents
- **Settings.** `Recorder.NeverSerializes`, which no step changes (`never_act`).
- **Code.** `Recoding`, other code in the place of the code that values and outcomes bring along.
- **Passive scenes.** `Scene.Passive`, kept by every step (`Passive.act`); what a step does in one.
- **Runs.** `Scene.Unserialized` and `Scene.Discarding`, of every run of a recorder that is built
  (`run_unserialized`).
-/

namespace ProbeRecorder

/-! ## Settings -/

namespace Recorder

variable {r s t : Recorder}

/-- **Nothing is ever serialized**: the mode is another one, or the policy does not allow it. -/
def NeverSerializes (r : Recorder) : Prop := r.mode ≠ .detailed ∨ r.policy.allows .object = false

/-- Nothing is eligible then, whatever the probe and the value are. -/
theorem NeverSerializes.not_eligible (h : r.NeverSerializes) (probe : ProbeId) (object : ObjectId) :
    r.isEligible probe object = false := by
  unfold isEligible
  rcases h with mode | policy
  · have silent : r.mode.serializes = false := decide_eq_false mode
    rw [silent]
    rfl
  · rw [policy, Bool.and_false]
    rfl

/-- Values are only identified. -/
theorem NeverSerializes.fate (h : r.NeverSerializes) (m : Moment) (probe : ProbeId) (value : Option Subject) :
    r.fate m probe value = .identified := by
  unfold Recorder.fate
  rw [h.not_eligible, if_neg Bool.false_ne_true]

end Recorder

namespace Scene

variable {s : Scene} {step : Step}

/-- **No step changes what a recorder serializes.** -/
theorem never_act (h : s.recorder.NeverSerializes) (step : Step) : (s.act step).2.recorder.NeverSerializes := by
  obtain ⟨r, es, framed⟩ := s.act_framed step
  have mode : (s.act step).2.recorder.mode = s.recorder.mode := by
    rw [framed.logs.mode, framed.rest]
    rfl
  have policy : (s.act step).2.recorder.policy = s.recorder.policy := by
    rw [framed.logs.policy, framed.rest]
    rfl
  unfold Recorder.NeverSerializes
  rw [mode, policy]
  exact h

end Scene

/-! ## Code -/

/-- **Other code** in the place of the code that values and outcomes bring along. -/
structure Recoding where
  script : Script → Script
  outcome : CallOutcome → CallOutcome

namespace Recoding

variable (c : Recoding)

def subject : Subject → Subject
  | .mk a typeName shape script => .mk a typeName shape (c.script script)

def answer : Readiness → Readiness
  | .ready outcome => .ready (c.outcome outcome)
  | a => a

def producer (p : Producer) : Producer :=
  { p with answers := p.answers.map c.answer, exhausted := c.answer p.exhausted }

def wrap (w : Wrap) : Wrap :=
  { w with answers := w.answers.map c.answer, exhausted := c.answer w.exhausted }

def action : Action → Action
  | .value probe value => .value probe (value.map c.subject)
  | .wrap w => .wrap (c.wrap w)
  | a => a

/-- The step with other code. -/
def step (x : Step) : Step := { x with action := c.action x.action }

/-- The scene whose wrappers have other code. -/
def scene (s : Scene) : Scene := { s with wrappers := s.wrappers.map (Option.map c.producer) }

theorem wrapper?_scene (s : Scene) (k : Nat) : (c.scene s).wrapper? k = (s.wrapper? k).map c.producer := by
  unfold Scene.wrapper? scene
  rw [List.getElem?_map]
  cases s.wrappers[k]? with
  | none => rfl
  | some p => cases p <;> rfl

/-- A wrapper that has no call passes on other outcomes, and does nothing else differently. -/
theorem advance_producer {p : Producer} (closed : p.call = none) (m : Moment) (r : Recorder) :
    ((c.producer p).advance m r).2 = (c.producer (p.advance m r).2.1, (p.advance m r).2.2) := by
  have next : (c.producer p).next = (c.answer p.next.1, c.producer p.next.2) := by
    obtain ⟨kind, answers, exhausted, slack, call, resolved⟩ := p
    cases answers <;> rfl
  have kind : (c.producer p).kind = p.kind := rfl
  have silent : p.next.2.call = none := p.next_call.trans closed
  unfold Producer.advance
  rw [next, kind]
  generalize p.next = found at silent ⊢
  obtain ⟨answer, q⟩ := found
  have recoded : (c.producer q).call = none := silent
  cases answer with
  | pending => rfl
  | ended => cases p.kind <;> rfl
  | ready outcome =>
      have same : (c.producer q).report m (c.outcome outcome) r = q.report m outcome r :=
        (Producer.report_of_closed recoded).trans (Producer.report_of_closed silent).symm
      cases p.kind
      · exact congrArg (Prod.mk (c.producer q.resolve)) same
      · exact congrArg (Prod.mk (c.producer q)) same

/-- A value that is not eligible is recorded alike with other code. -/
theorem recordValue_subject {r : Recorder} (h : r.NeverSerializes) (m : Moment) (probe : ProbeId)
    (value : Option Subject) :
    r.recordValue m probe (value.map c.subject) = r.recordValue m probe value := by
  cases suppressed : r.suppressed with
  | true =>
      rw [Recorder.recordValue_of_suppressed m probe _ suppressed,
        Recorder.recordValue_of_suppressed m probe _ suppressed]
  | false =>
      rw [Recorder.recordValue_of_active m probe _ suppressed,
        Recorder.recordValue_of_active m probe _ suppressed]
      refine Recorder.guarded_congr ?_
      have never : ({ r with suppressed := true } : Recorder).NeverSerializes := h
      rw [never.fate, never.fate]
      -- Who a value is depends on its place in memory and on its type.
      cases value with
      | none => rfl
      | some subject =>
          obtain ⟨a, typeName, shape, script⟩ := subject
          rfl

end Recoding

/-! ## Passive scenes -/

/-- **What a producer of a kind answers**; a future has no end. -/
def ProducerKind.passes : ProducerKind → Readiness → Polled
  | _, .pending => .pending
  | .single, .ended => .pending
  | .many, .ended => .ended
  | _, .ready outcome => .ready outcome

/-- **A wrapper answers what its producer answers**, and has the same answers left. -/
theorem Producer.advance_passes (p : Producer) (m : Moment) (r : Recorder) :
    (p.advance m r).1 = p.kind.passes p.next.1 ∧ (p.advance m r).2.1.kind = p.kind ∧
      (p.advance m r).2.1.answers = p.next.2.answers ∧ (p.advance m r).2.1.exhausted = p.exhausted := by
  have kind : p.next.2.kind = p.kind := by
    unfold next
    split <;> rfl
  have exhausted : p.next.2.exhausted = p.exhausted := by
    unfold next
    split <;> rfl
  unfold advance
  generalize p.next = found at kind exhausted ⊢
  obtain ⟨answer, q⟩ := found
  simp only at kind exhausted
  cases answer with
  | pending => exact ⟨by cases p.kind <;> rfl, kind, rfl, exhausted⟩
  | ended => cases hk : p.kind <;> exact ⟨rfl, kind.trans hk, rfl, exhausted⟩
  | ready outcome => cases hk : p.kind <;> exact ⟨rfl, kind.trans hk, rfl, exhausted⟩

namespace Scene

variable {s : Scene} {step : Step}

/-- **A passive scene**: nothing is serialized, no wrapper has a call, and no value is skipped. -/
structure Passive (s : Scene) : Prop where
  never : s.recorder.NeverSerializes
  closed : ∀ k p, s.wrapper? k = some p → p.call = none
  skipped : ∀ id, id ∉ s.recorder.skipped

/-- The recorder that a step of a passive scene faces. -/
theorem Passive.facing (h : s.Passive) (step : Step) : (s.facing step).NeverSerializes := h.never

/-- Nothing is given up. -/
theorem Passive.nothing_lost (h : s.Passive) (step : Step) :
    s.removed? step = none ∧ s.failure? step = none := by
  unfold removed? failure? Recorder.bars Recorder.fails Recorder.declines
  simp only [(h.facing step).fate, (h.facing step).not_eligible]
  cases step.action with
  | value probe subject => cases subject <;> simp [Fate.bars, Fate.fails]
  | wrap w => simp
  | _ => exact ⟨rfl, rfl⟩

/-- No call is opened. -/
theorem Passive.unopened (h : s.Passive) (step : Step) : (s.turn step).reply.opening? = none := by
  cases action : step.action with
  | wrap w =>
      obtain ⟨call, handed, reply, _⟩ := s.turn_handed action
      rw [reply]
      generalize (s.turn step).written = written at handed
      cases handed with
      | opened opens => simp [Recorder.opens, h.never.not_eligible] at opens
      | _ => rfl
  | poll k =>
      show (s.perform step).1.opening? = none
      rw [s.perform_poll action, poll]
      split <;> rfl
  | _ =>
      show (s.perform step).1.opening? = none
      rw [perform, action]
      rfl

/-- **Wrappers have no call** after a step either. -/
theorem Passive.closed_act (h : s.Passive) (step : Step) {k : Nat} {p : Producer}
    (present : (s.act step).2.wrapper? k = some p) : p.call = none := by
  have unopened := h.unopened step
  obtain ⟨_, effect⟩ := s.turn_effect step
  generalize (s.turn step).reply = reply at unopened effect
  generalize (s.turn step).written = es at effect
  have unchanged : (s.act step).2.wrappers = s.wrappers → p.call = none := by
    intro same
    refine h.closed k p ?_
    unfold wrapper? at present ⊢
    rw [← same]
    exact present
  cases effect with
  | aside _ wrappers _ => exact unchanged wrappers
  | woven _ _ _ _ _ _ _ wrappers => exact unchanged wrappers
  | dropped j _ wrappers =>
      rw [wrapper?_of_set wrappers] at present
      split at present
      · cases present
      · exact h.closed k p present
  | passed q _ closed wrappers _ =>
      rw [wrapper?_of_append wrappers] at present
      split at present
      · rw [← Option.some.inj present]
        exact closed
      · exact h.closed k p present
  | opened w _ _ _ _ _ => cases unopened
  | polled j q q' answer _ there wrappers _ call =>
      rw [wrapper?_of_set wrappers] at present
      split at present
      · rw [← Option.some.inj present, call, h.closed j q there]
        split <;> rfl
      · exact h.closed k p present

/-- **Every step keeps a scene passive.** -/
theorem Passive.act (h : s.Passive) (step : Step) : (s.act step).2.Passive where
  never := never_act h.never step
  closed := fun _ _ present => h.closed_act step present
  skipped := by
    intro id skipped
    rcases ((s.act_marked step).skipped id).mp skipped with old | ⟨a, failed, _⟩
    · exact h.skipped id old
    · rw [(h.nothing_lost step).2] at failed
      cases failed

theorem Passive.after (h : s.Passive) (steps : List Step) : (s.after steps).Passive :=
  after_invariant (fun _ step passive => passive.act step) steps h

/-- No probe loses its values. -/
theorem Passive.mem_recordable_after (h : s.Passive) {p : ProbeId} (recordable : p ∈ s.recorder.recordable)
    (steps : List Step) : p ∈ (s.after steps).recorder.recordable := by
  refine (after_invariant (P := fun t => t.Passive ∧ p ∈ t.recorder.recordable) ?_ steps ⟨h, recordable⟩).2
  rintro t step ⟨passive, recordable⟩
  refine ⟨passive.act step, (mem_recordable_act recordable).mpr ?_⟩
  rw [(passive.nothing_lost step).1]
  exact (Option.some_ne_none p).symm

/-- **What is written carries nothing.** -/
theorem Passive.plain (h : s.Passive) {d : Draft} (written : d ∈ s.drafts step) :
    d.event.payload = none ∧ d.event.isAnchor = false := by
  unfold drafts at written
  cases action : step.action with
  | scalar probe value =>
      rw [action] at written
      rw [Recorder.eq_of_mem_whenActive written]
      exact ⟨rfl, rfl⟩
  | value probe value =>
      rw [action] at written
      simp only [(h.facing step).fate] at written
      rw [Recorder.eq_of_mem_whenActive written]
      exact ⟨rfl, rfl⟩
  | wrap w =>
      have unopened : (s.facing step).opens w.probe w.typeName = false := by
        simp [Recorder.opens, h.never.not_eligible]
      rw [action] at written
      simp only [Recorder.callDraft, unopened] at written
      rw [Recorder.eq_of_mem_whenActive written]
      exact ⟨rfl, rfl⟩
  | poll k =>
      rw [action] at written
      simp only at written
      split at written
      · rename_i p present
        unfold Producer.drafts at written
        rw [h.closed k p present] at written
        cases written
      · cases written
  | _ =>
      rw [action] at written
      cases written

/-- **A poll passes on the next answer**, and nothing else: the recorder is as before. -/
structure PassesOn (s : Scene) (step : Step) (k : Nat) (p : Producer) : Prop where
  reply : (s.turn step).reply = .polled k (p.kind.passes p.next.1)
  /-- The answers that come later are passed on later. -/
  rest : ∃ q, (s.act step).2.wrapper? k = some q ∧ q.kind = p.kind ∧ q.answers = p.next.2.answers ∧
    q.exhausted = p.exhausted
  recorder : (s.act step).2.recorder = s.facing step
  written : (s.turn step).written = []

/-- **Every poll** passes on an answer. -/
theorem Passive.passesOn (h : s.Passive) {k : Nat} {p : Producer} (action : step.action = .poll k)
    (present : s.wrapper? k = some p) : s.PassesOn step k p := by
  have recorder : (s.act step).2.recorder = s.facing step := by
    rw [recorder_act, s.perform_poll action, poll_of_some present]
    exact (p.advance_of_closed step.moment (s.facing step) (h.closed k p present)).1
  obtain ⟨answer, kind, answers, exhausted⟩ := p.advance_passes step.moment (s.facing step)
  refine ⟨?_, ⟨(p.advance step.moment (s.facing step)).2.1, ?_, kind, answers, exhausted⟩, recorder, ?_⟩
  · show (s.perform step).1 = _
    rw [s.perform_poll action, ← answer]
    unfold Scene.poll
    rw [present]
  · have wrappers : (s.act step).2.wrappers =
        s.wrappers.set k (some (p.advance step.moment (s.facing step)).2.1) := by
      rw [wrappers_act, s.perform_poll action, poll_of_some present]
    rw [wrapper?_of_set wrappers, if_pos ⟨rfl, lt_of_wrapper?_eq_some present⟩]
  · exact written_of_log (by rw [recorder]; exact (List.append_nil _).symm)

/-- **What a step does with other code** is the same. -/
theorem Passive.perform_recoded (h : s.Passive) (c : Recoding) (step : Step) :
    ((c.scene s).perform (c.step step)).2 = c.scene (s.perform step).2 := by
  unfold Scene.perform Recoding.step
  cases action : step.action with
  | value probe value =>
      simp only [Recoding.action]
      show (c.scene s).withRecorder ((s.facing step).recordValue step.moment probe (value.map c.subject)) = _
      rw [c.recordValue_subject (h.facing step)]
      rfl
  | wrap w =>
      simp only [Recoding.action]
      rw [wrap_eq, wrap_eq]
      unfold Recoding.scene
      rw [List.map_append]
      rfl
  | poll k =>
      simp only [Recoding.action]
      cases present : s.wrapper? k with
      | none =>
          have gone : (c.scene s).wrapper? k = none := by rw [c.wrapper?_scene, present]; rfl
          rw [poll_of_none present, poll_of_none gone]
          rfl
      | some p =>
          have there : (c.scene s).wrapper? k = some (c.producer p) := by rw [c.wrapper?_scene, present]; rfl
          have passed := c.advance_producer (h.closed k p present) step.moment (s.facing step)
          rw [poll_of_some present, poll_of_some there]
          show ({ c.scene s with
            recorder := ((c.producer p).advance step.moment (s.facing step)).2.2
            wrappers := (c.scene s).wrappers.set k
              (some ((c.producer p).advance step.moment (s.facing step)).2.1) } : Scene) = _
          rw [passed]
          unfold Recoding.scene
          rw [List.map_set]
          rfl
  | discard k =>
      simp only [Recoding.action]
      unfold Recoding.scene
      rw [List.map_set]
      rfl
  | release g =>
      simp only [Recoding.action]
      unfold Scene.release
      have guards : (c.scene s).guardsOf step.thread = s.guardsOf step.thread := rfl
      rw [guards]
      cases (s.guardsOf step.thread)[g]?.join <;> rfl
  | _ => rfl

/-- **A step with other code** does the same. -/
theorem Passive.act_recoded (h : s.Passive) (c : Recoding) (step : Step) :
    ((c.scene s).act (c.step step)).2 = c.scene (s.act step).2 := by
  unfold Scene.act
  rw [h.perform_recoded c step]
  rfl

/-- **Runs with other code** do the same. -/
theorem Passive.after_recoded (c : Recoding) : ∀ (steps : List Step) {s : Scene}, s.Passive →
    (c.scene s).after (steps.map c.step) = c.scene (s.after steps) := by
  intro steps
  induction steps with
  | nil => exact fun _ => rfl
  | cons step rest ih =>
      intro s h
      rw [List.map_cons]
      show ((c.scene s).act (c.step step)).2.after (rest.map c.step) = _
      rw [h.act_recoded c step]
      exact ih (h.act step)

end Scene

/-! ## Runs -/

namespace Recorder

/-- **Nothing is serialized** in a run of a recorder. -/
structure Unserialized (r : Recorder) (steps : List Step) : Prop where
  /-- With other code, whatever it does, the recorder comes to the same. -/
  code : ∀ c : Recoding, (r.scene.after (steps.map c.step)).recorder = (r.scene.after steps).recorder
  ignored : ∀ pre step post probe subject, steps = pre ++ step :: post →
    step.action = .value probe (some subject) →
    ((r.scene.after pre).facing step).Ignores step.moment probe subject
  /-- The events for the sink carry nothing, and start no call. -/
  plain : ∀ pre step post e, steps = pre ++ step :: post → e ∈ (r.scene.after pre).offered step →
    e.payload = none ∧ e.isAnchor = false
  closed : ∀ pre post k p, steps = pre ++ post → (r.scene.after pre).wrapper? k = some p → p.call = none
  passed : ∀ pre step post k p, steps = pre ++ step :: post → step.action = .poll k →
    (r.scene.after pre).wrapper? k = some p → (r.scene.after pre).PassesOn step k p
  skipped : ∀ pre post id, steps = pre ++ post → id ∉ (r.scene.after pre).recorder.skipped
  kept : ∀ pre mid post p, steps = pre ++ (mid ++ post) → p ∈ (r.scene.after pre).recorder.recordable →
    p ∈ (r.scene.after (pre ++ mid)).recorder.recordable

/-- **The sink gets nothing** in a run of a recorder, and is not even asked: whatever it refuses, every event
    counts as taken, and classes are registered. -/
structure Discarding (r : Recorder) (steps : List Step) : Prop where
  log : ∀ pre post, steps = pre ++ post → (r.scene.after pre).recorder.sink.log = r.sink.log
  taken : ∀ x ∈ r.scene.submitted steps, x.taken = true
  counted : (r.scene.after steps).recorder.stats.sinkFailures = 0
  registered : ∀ pre step post b, steps = pre ++ step :: post → step.action = .register b →
    (((r.scene.after pre).facing step).registerBatch b).1 = .ok () ∧
      (b.probes ≠ [] → b.classId ∉ (r.scene.after pre).recorder.classes →
        (r.scene.after pre).recorder.Adopted b (r.scene.after (pre ++ [step])).recorder)

end Recorder

namespace Scene

/-- **Runs from a passive scene** serialize nothing. -/
theorem Passive.unserialized {r : Recorder} (h : r.scene.Passive) (steps : List Step) :
    r.Unserialized steps where
  code := by
    intro c
    have same := congrArg Scene.recorder (h.after_recoded c steps)
    exact same
  ignored := by
    intro pre step _ probe subject _ _
    exact Recorder.ignores_of_not_eligible ((h.after pre).never.not_eligible probe _)
  plain := by
    intro pre step _ e _ offered
    rw [offered_eq] at offered
    obtain ⟨x, hx, rfl⟩ := List.mem_map.mp offered
    obtain ⟨d, hd, rfl⟩ := List.mem_map.mp hx
    exact (h.after pre).plain hd
  closed := fun pre _ k p _ present => (h.after pre).closed k p present
  passed := fun pre _ _ _ _ _ action present => (h.after pre).passesOn action present
  skipped := fun pre _ id _ => (h.after pre).skipped id
  kept := by
    intro pre mid _ p _ recordable
    rw [after_append]
    exact (h.after pre).mem_recordable_after recordable mid

/-- Where nothing is kept, a step writes nothing. -/
theorem written_of_discards {s : Scene} {step : Step} (discards : s.recorder.discards = true) :
    (s.turn step).written = [] := by
  have events := s.events_turn step
  have weaves := s.weaves_turn step
  unfold Recorder.entered at events
  rw [if_pos discards] at events weaves
  -- An entry is an event or a registration.
  refine List.eq_nil_iff_forall_not_mem.mpr fun e he => ?_
  cases e with
  | event e => exact List.filterMap_eq_nil_iff.mp events _ he |> Option.some_ne_none _
  | weave c probes => exact List.filterMap_eq_nil_iff.mp weaves _ he |> Option.some_ne_none _

/-- Where nothing is kept, the log stays as it is. -/
theorem log_of_discards {s : Scene} (discards : s.recorder.discards = true) (steps : List Step) :
    (s.after steps).recorder.sink.log = s.recorder.sink.log := by
  refine (after_invariant (P := fun t => t.recorder.discards = true ∧
    t.recorder.sink.log = s.recorder.sink.log) ?_ steps ⟨discards, rfl⟩).2
  rintro t step ⟨discards, log⟩
  obtain ⟨extended, _⟩ := t.turn_effect step
  have same := extended.log
  rw [written_of_discards discards, List.append_nil] at same
  exact ⟨extended.discards.trans discards, same.trans log⟩

/-- **Runs of a recorder that keeps nothing** bring nothing to the sink. -/
theorem discarding {r : Recorder} (discards : r.discards = true) (zero : r.stats = {}) (steps : List Step) :
    r.Discarding steps := by
  have kept : ∀ pre, (r.scene.after pre).recorder.discards = true :=
    fun pre => (r.scene.after_extends pre).discards.trans discards
  have taken : ∀ x ∈ r.scene.submitted steps, x.taken = true := by
    intro x hx
    obtain ⟨pre, step, _, _, hx⟩ := mem_submitted hx
    exact (taken_iff hx).mpr (.inl (kept pre))
  refine ⟨fun pre _ _ => log_of_discards discards pre, taken, ?_, ?_⟩
  · have accounts : r.scene.Counted steps := counted zero steps
    rw [accounts.stats]
    refine List.countP_eq_zero.mpr fun x hx => ?_
    rw [taken x hx]
    exact Bool.false_ne_true
  · intro pre step _ b _ action
    have registered := registerBatch_registered (s := r.scene.after pre) action
    have acted := act_register (s := r.scene.after pre) action
    rw [after_append]
    show _ ∧ (_ → _ → Recorder.Adopted _ b ((r.scene.after pre).act step).2.recorder)
    rw [acted]
    show _ ∧ (_ → _ → Recorder.Adopted _ b (((r.scene.after pre).facing step).registerBatch b).2)
    generalize ((r.scene.after pre).facing step).registerBatch b = answer at registered
    cases registered with
    | unchanged known _ =>
        exact ⟨rfl, fun nonempty new => absurd known (not_or.mpr ⟨nonempty, new⟩)⟩
    | taken _ _ _ _ adopted _ =>
        exact ⟨rfl, fun _ _ => ⟨adopted.classes, adopted.recordable, adopted.probes, adopted.anchors⟩⟩
    | refused _ _ keeps _ _ _ _ =>
        rw [kept pre] at keeps
        cases keeps

/-- A new recorder that never serializes is passive. -/
theorem passive_scene {o : RecorderOptions} {sink : Sink} {r : Recorder}
    (built : Recorder.build o sink = .ok r) (never : r.NeverSerializes) : r.scene.Passive := by
  obtain ⟨policy, rfl⟩ := Recorder.eq_withPolicy_of_build built
  exact ⟨never, fun k p present => (nomatch present), fun id skipped => nomatch skipped⟩

end Scene

/-- **Recorders that never serialize**, in every run: none in another mode than the detailed one serializes
    anything, nor one whose policy does not allow objects; and one in discard mode leaves its sink alone. -/
theorem run_unserialized {o : RecorderOptions} {sink : Sink} {r : Recorder}
    (built : Recorder.build o sink = .ok r) (never : r.NeverSerializes) (steps : List Step) :
    r.Unserialized steps ∧ (r.mode = .discard → r.Discarding steps) := by
  refine ⟨(Scene.passive_scene built never).unserialized steps, fun discard => ?_⟩
  obtain ⟨policy, rfl⟩ := Recorder.eq_withPolicy_of_build built
  have discards : (Recorder.withPolicy o policy sink).discards = true := by
    have mode : o.mode = .discard := discard
    unfold Recorder.withPolicy
    simp [mode]
  exact Scene.discarding discards rfl steps

/-- Values and a producer at probes that are marked, one with code that panics. -/
def silentSteps : List Step :=
  let moment : Moment := ⟨firstMemory, ⟨5, "main"⟩, 6⟩
  let takes : SinkCall → Option RecorderError := fun _ => none
  [⟨0, moment, takes, .mark [1, 2]⟩,
   ⟨0, moment, takes, .value 1 (some brokenValue)⟩,
   ⟨0, moment, takes, .wrap ⟨2, "app.Fetch", .single, [.ready (.value (.done (.panic none)))], .pending, 0⟩⟩,
   ⟨0, moment, takes, .poll 0⟩]

/-- The same, and a class, with a sink that refuses everything. -/
def refusedSteps : List Step :=
  (⟨0, ⟨firstMemory, ⟨4, "main"⟩, 5⟩, fun _ => some ⟨.sink, "disk full"⟩, .register Recorder.storefront⟩ ::
    silentSteps).map fun step => { step with refusal := fun _ => some ⟨.sink, "disk full"⟩ }

/-- Three recorders: one that writes identities only, one whose policy allows calls only, and one that
    discards everything. -/
theorem run_unserialized_silent :
    ∃ identity calls discard,
      Recorder.build { RecorderOptions.capturing with mode := .identity } .empty = .ok identity ∧
      Recorder.build { policy := some (.ofCategories (· = .call)) } .empty = .ok calls ∧
      Recorder.build { RecorderOptions.capturing with mode := .discard } .empty = .ok discard ∧
      (eventsOf (logOf (identity.scene.history silentSteps))).map (·.payload) = [none, none] ∧
      identity.Unserialized silentSteps ∧ calls.Unserialized silentSteps ∧
      discard.Unserialized refusedSteps ∧ discard.Discarding refusedSteps ∧
      (discard.scene.after refusedSteps).recorder.isRecordable 31 = true := by
  have identityBuilt : Recorder.build { RecorderOptions.capturing with mode := .identity } .empty =
      .ok (.withPolicy { RecorderOptions.capturing with mode := .identity } (.ofCategories fun _ => true) .empty) :=
    rfl
  have callsBuilt : Recorder.build { policy := some (.ofCategories (· = .call)) } .empty =
      .ok (.withPolicy { policy := some (.ofCategories (· = .call)) } (.ofCategories (· = .call)) .empty) := rfl
  have discardBuilt : Recorder.build { RecorderOptions.capturing with mode := .discard } .empty =
      .ok (.withPolicy { RecorderOptions.capturing with mode := .discard } (.ofCategories fun _ => true) .empty) :=
    rfl
  have identity := run_unserialized identityBuilt (.inl (by decide)) silentSteps
  have calls := run_unserialized callsBuilt (.inr (by decide)) silentSteps
  have discard := run_unserialized discardBuilt (.inl (by decide)) refusedSteps
  exact ⟨_, _, _, identityBuilt, callsBuilt, discardBuilt, by decide, identity.1, calls.1, discard.1,
    discard.2 rfl, by decide⟩

end ProbeRecorder
