import Mathlib.Algebra.GroupWithZero.Nat
import ProbeRecorder.Proofs.Identity.Map
import ProbeRecorder.Proofs.Program.History
import ProbeRecorder.Proofs.Recorder.Fate

/-!
# `ProbeRecorder.Proofs.Program.Permanence` — what is given up stays given up

A value that failed to be serialized is not tried again, at any probe, as long as it lives. The probe where
it failed, like one where an excluded type was seen, loses its values until the program names it again.
Nothing else is skipped: a value that comes to live where a failed one died starts afresh.

## Contents
- **Memory.** `Embodied`, runs whose values live in memory; `identitiesIn`, how many identities they take.
- **Losses.** `Scene.removed?` and `Scene.failure?`, what a step gives up; `Scene.failures` of a run.
- **One step.** `Scene.Marked`, all that a step can do to probes, values and identities (`act_marked`).
- **Runs.** `Scene.Orderly`, kept by every step (`Orderly.act`) and by every run (`Orderly.after`).
- **Losses last.** `Scene.Lasting`, of every run from any scene (`lasting`).
- **Skipped values.** `Scene.SkipsFailed` and `Scene.SkipsOnlyFailed`, of runs from an orderly scene.
- **Permanence.** All of this, for every recorder that is built (`run_permanent`).
-/

namespace ProbeRecorder

/-! ## Memory -/

/-- The value that is recorded, if one is. -/
def Action.subject? : Action → Option Subject
  | .value _ subject => subject
  | _ => none

/-- A value or a producer is observed. -/
def Action.observes : Action → Bool
  | .value _ _ => true
  | .wrap _ => true
  | _ => false

/-- **An embodied run**: memory evolves from step to step, and a value that is recorded lives. -/
def Embodied (heap : Heap) : List Step → Prop
  | [] => True
  | step :: rest => heap.Evolves step.moment.heap ∧
      (∀ subject, step.action.subject? = some subject →
        step.moment.heap.isLive subject.allocation = true) ∧
      Embodied step.moment.heap rest

/-- The memory after a run. -/
def heapAfter (heap : Heap) : List Step → Heap
  | [] => heap
  | step :: rest => heapAfter step.moment.heap rest

theorem embodied_append {pre post : List Step} : ∀ {heap : Heap}, Embodied heap (pre ++ post) →
    Embodied heap pre ∧ Embodied (heapAfter heap pre) post := by
  induction pre with
  | nil => exact fun h => ⟨trivial, h⟩
  | cons step rest ih =>
      intro heap h
      obtain ⟨evolves, lives, hrest⟩ := h
      exact ⟨⟨evolves, lives, (ih hrest).1⟩, (ih hrest).2⟩

/-- How many identities a step can take. -/
def Step.ids (step : Step) : Nat :=
  match step.action with
  | .value _ (some _) => 1
  | .wrap _ => 1
  | _ => 0

theorem Step.ids_value {step : Step} {probe : ProbeId} {subject : Subject}
    (action : step.action = .value probe (some subject)) : step.ids = 1 := by
  rw [ids, action]

theorem Step.ids_wrap {step : Step} {w : Wrap} (action : step.action = .wrap w) : step.ids = 1 := by
  rw [ids, action]

/-- How many identities a run can take. -/
def identitiesIn (steps : List Step) : Nat := (steps.map Step.ids).sum

theorem identitiesIn_cons (step : Step) (rest : List Step) :
    identitiesIn (step :: rest) = step.ids + identitiesIn rest := by
  simp [identitiesIn]

theorem identitiesIn_append (pre post : List Step) :
    identitiesIn (pre ++ post) = identitiesIn pre + identitiesIn post := by
  simp [identitiesIn]

/-! ## Losses -/

/-- The probes whose values a program asks for. -/
def Action.named : Action → List ProbeId
  | .mark probes => probes
  | .register b => Recorder.referenceProbes b
  | _ => []

namespace Scene

/-- **The probe that a step costs its values**, for a failure or for an excluded type. -/
def removed? (s : Scene) (step : Step) : Option ProbeId :=
  match step.action with
  | .value probe subject => if (s.facing step).bars step.moment probe subject then some probe else none
  | .wrap w => if (s.facing step).declines w.probe w.typeName then some w.probe else none
  | _ => none

/-- **The value that fails** to be serialized in a step, with the identity it has. -/
def failure? (s : Scene) (step : Step) : Option (ObjectId × Allocation) :=
  match step.action with
  | .value probe (some subject) =>
    if (s.facing step).fails step.moment probe (some subject) then
      some (s.recorder.identityOf step.moment (some subject), subject.allocation)
    else none
  | _ => none

/-- **The values that failed** in a run. -/
def failures (s : Scene) : List Step → List (ObjectId × Allocation)
  | [] => []
  | step :: rest => (s.failure? step).toList ++ (s.act step).2.failures rest

/-- The identities after a step; those of the latest instances aside. -/
def identitiesAfter (s : Scene) (step : Step) : IdentityMap :=
  if s.suppressedOn step.thread then s.recorder.identities
  else match step.action with
    | .value _ subject => (s.recorder.identified step.moment subject).identities
    | .wrap _ => s.recorder.identities.issue.2
    | _ => s.recorder.identities

/-! ## One step -/

/-- **All that a step can do** to probes, skipped values and identities. -/
structure Marked (s : Scene) (step : Step) (t : Recorder) : Prop where
  recordable : ∀ p ∈ t.recordable,
    p ∈ step.action.named ∨ (p ∈ s.recorder.recordable ∧ s.removed? step ≠ some p)
  skipped : ∀ id, id ∈ t.skipped ↔
    id ∈ s.recorder.skipped ∨ ∃ a, s.failure? step = some (id, a) ∧ id ≠ nullObject
  identities : (s.identitiesAfter step).SameIds t.identities

variable {s : Scene} {step : Step}

/-- Only observing a value or a producer gives something up, or takes an identity. -/
theorem nothing_lost (h : step.action.observes = false) :
    s.removed? step = none ∧ s.failure? step = none ∧ s.identitiesAfter step = s.recorder.identities := by
  unfold removed? failure? identitiesAfter
  cases action : step.action <;> simp_all [Action.observes]

/-- A step that observes nothing. -/
theorem marked_of_sets {t : Recorder} (h : step.action.observes = false)
    (recordable : ∀ p ∈ t.recordable, p ∈ step.action.named ∨ p ∈ s.recorder.recordable)
    (skipped : t.skipped = s.recorder.skipped) (identities : s.recorder.identities.SameIds t.identities) :
    s.Marked step t := by
  obtain ⟨hremoved, hfailure, hidentities⟩ := s.nothing_lost h
  constructor
  · intro p hp
    rw [hremoved]
    exact (recordable p hp).imp_right fun old => ⟨old, Option.some_ne_none p |>.symm⟩
  · intro id
    rw [skipped, hfailure]
    simp
  · rw [hidentities]
    exact identities

/-- A step that observes nothing and decides nothing differently. -/
theorem marked_of_same {t : Recorder} (same : (s.facing step).SameSets t) (h : step.action.observes = false) :
    s.Marked step t := by
  refine marked_of_sets h (fun p hp => .inr ?_) same.skipped ?_
  · rw [same.recordable] at hp
    exact hp
  · rw [same.identities]
    exact ⟨rfl, rfl⟩

/-- All threads see the same identities, whatever the sink refuses. -/
theorem facing_identity (s : Scene) (step : Step) (m : Moment) (subject : Option Subject) :
    (s.facing step).identityOf m subject = s.recorder.identityOf m subject ∧
      ((s.facing step).identified m subject).identities = (s.recorder.identified m subject).identities := by
  cases subject <;> exact ⟨rfl, rfl⟩

theorem value_marked {probe : ProbeId} {subject : Option Subject}
    (action : step.action = .value probe subject) :
    s.Marked step ((s.facing step).recordValue step.moment probe subject) := by
  obtain ⟨hidentity, hidentities⟩ := s.facing_identity step step.moment subject
  constructor
  · intro p hp
    obtain ⟨old, kept⟩ := (Recorder.mem_recordable_recordValue step.moment probe p subject).mp hp
    refine .inr ⟨old, ?_⟩
    simp only [removed?, action]
    split
    · exact fun heq => kept ‹_› (Option.some.inj heq).symm
    · simp
  · intro id
    rw [Recorder.mem_skipped_recordValue, hidentity]
    refine or_congr Iff.rfl ?_
    simp only [failure?, action]
    cases subject with
    | none =>
        -- The absent value is the null object, which is never skipped.
        simp only [Recorder.identityOf]
        constructor
        · exact fun h => absurd h.2.1 h.2.2
        · exact fun ⟨a, h, _⟩ => nomatch h
    | some subject =>
        simp only
        constructor
        · rintro ⟨failed, rfl, hid⟩
          exact ⟨subject.allocation, by rw [if_pos failed], hid⟩
        · rintro ⟨a, h, hid⟩
          split at h
          · exact ⟨‹_›, (Prod.mk.inj (Option.some.inj h)).1.symm, hid⟩
          · cases h
  · rw [Recorder.identities_recordValue, hidentities]
    simp only [identitiesAfter, action]
    exact ⟨rfl, rfl⟩

theorem wrap_marked {w : Wrap} (action : step.action = .wrap w) :
    s.Marked step (s.wrap (s.facing step) step.moment w).2.recorder := by
  rw [wrap_eq]
  constructor
  · intro p hp
    obtain ⟨old, kept⟩ := (Recorder.mem_recordable_openCall step.moment w.probe p w.typeName).mp hp
    refine .inr ⟨old, ?_⟩
    simp only [removed?, action]
    split
    · exact fun heq => kept ‹_› (Option.some.inj heq).symm
    · simp
  · intro id
    rw [Recorder.skipped_openCall]
    simp [failure?, action, facing]
  · rw [Recorder.identities_openCall]
    simp only [identitiesAfter, action]
    exact ⟨rfl, rfl⟩

theorem poll_same (s : Scene) (step : Step) (k : Nat) :
    (s.facing step).SameSets (s.poll (s.facing step) step.moment k).2.recorder := by
  unfold poll
  cases s.wrapper? k with
  | none => exact Recorder.SameSets.refl _
  | some p => exact p.advance_same step.moment (s.facing step)

theorem release_same (s : Scene) (step : Step) (g : Nat) :
    (s.facing step).SameSets (s.release (s.facing step) step.thread g).recorder := by
  unfold release
  split <;> exact ⟨rfl, rfl, rfl⟩

/-- **One step.** -/
theorem act_marked (s : Scene) (step : Step) : s.Marked step (s.act step).2.recorder := by
  unfold act perform
  cases action : step.action with
  | scalar probe value => exact marked_of_same ((s.facing step).recordScalar_same _ _ _) (by rw [action]; rfl)
  | value probe subject => exact value_marked action
  | wrap w => exact wrap_marked action
  | poll k => exact marked_of_same (s.poll_same step k) (by rw [action]; rfl)
  | discard k => exact marked_of_same (Recorder.SameSets.refl _) (by rw [action]; rfl)
  | register b =>
      obtain ⟨recordable, skipped, identities⟩ := (s.facing step).registerBatch_sets b
      refine marked_of_sets (by rw [action]; rfl) (fun p hp => ?_) skipped ?_
      · rw [action]
        exact recordable p hp
      · show s.recorder.identities.SameIds ((s.facing step).registerBatch b).2.identities
        rw [identities]
        exact ⟨rfl, rfl⟩
  | mark probes =>
      refine marked_of_sets (by rw [action]; rfl) (fun p hp => ?_) rfl ⟨rfl, rfl⟩
      rw [action]
      exact (FiniteSet.mem_insertAll s.recorder.recordable probes p).mp hp
  | suppress => exact marked_of_same ⟨rfl, rfl, rfl⟩ (by rw [action]; rfl)
  | release g => exact marked_of_same (s.release_same step g) (by rw [action]; rfl)
  | latest typeName =>
      exact marked_of_sets (by rw [action]; rfl) (fun p hp => .inr hp) rfl
        (s.recorder.identities.latestInstance_same step.moment.heap typeName)

/-- What a step costs a probe, it is without after the step. -/
theorem not_mem_of_removed {p : ProbeId} (h : s.removed? step = some p) :
    p ∉ (s.act step).2.recorder.recordable := by
  intro hp
  rcases (s.act_marked step).recordable p hp with named | kept
  · unfold removed? at h
    cases action : step.action <;> simp_all [Action.named]
  · exact kept.2 h

/-- **A recordable probe** stays recordable, unless the step costs it its values. -/
theorem mem_recordable_act {p : ProbeId} (h : p ∈ s.recorder.recordable) :
    p ∈ (s.act step).2.recorder.recordable ↔ s.removed? step ≠ some p := by
  refine ⟨fun hp hremoved => not_mem_of_removed hremoved hp, fun kept => ?_⟩
  have same : ∀ {t : Recorder}, (s.facing step).SameSets t → p ∈ t.recordable := by
    intro t sets
    rw [sets.recordable]
    exact h
  unfold act perform
  unfold removed? at kept
  cases action : step.action with
  | scalar probe value => exact same ((s.facing step).recordScalar_same _ _ _)
  | value probe subject =>
      refine (Recorder.mem_recordable_recordValue step.moment probe p subject).mpr ⟨h, ?_⟩
      rintro bars rfl
      simp [action, bars] at kept
  | wrap w =>
      simp only
      rw [wrap_eq]
      refine (Recorder.mem_recordable_openCall step.moment w.probe p w.typeName).mpr ⟨h, ?_⟩
      rintro declines rfl
      simp [action, declines] at kept
  | poll k => exact same (s.poll_same step k)
  | discard k => exact h
  | register b => exact Recorder.mem_recordable_registerBatch b h
  | mark probes => exact (FiniteSet.mem_insertAll s.recorder.recordable probes p).mpr (.inr h)
  | suppress => exact h
  | release g => exact same (s.release_same step g)
  | latest typeName => exact h

/-! ## Runs -/

/-- **An orderly scene**, where memory is `heap`, at most `n` identities were taken and `failed` are the values
    that failed: these are skipped, and identities belong to who was given them. -/
structure Orderly (s : Scene) (heap : Heap) (n : Nat) (failed : List (ObjectId × Allocation)) : Prop where
  sound : heap.Sound
  skipped : ∀ id, id ∈ s.recorder.skipped ↔ id ≠ nullObject ∧ ∃ a, (id, a) ∈ failed
  ledger : ∃ given, s.recorder.identities.Ledger heap n given ∧ ∀ x ∈ failed, x ∈ given

variable {heap : Heap} {n : Nat} {failed given : List (ObjectId × Allocation)}

/-- Memory changes between two steps. -/
theorem Orderly.evolve (h : s.Orderly heap n failed) {heap' : Heap} (evolves : heap.Evolves heap') :
    s.Orderly heap' n failed := by
  obtain ⟨given, ledger, listed⟩ := h.ledger
  exact ⟨evolves.sound h.sound, h.skipped, given, ledger.evolve evolves, listed⟩

/-- No value that failed has the identity of the absent value. -/
theorem Orderly.fst_ne_null (h : s.Orderly heap n failed) (room : n < UInt64.size)
    {x : ObjectId × Allocation} (hx : x ∈ failed) : x.1 ≠ nullObject := by
  obtain ⟨given, ledger, listed⟩ := h.ledger
  exact ledger.fst_ne_null room (listed x hx)

/-- The next identity is not skipped. -/
theorem Orderly.nextId_not_mem (h : s.Orderly heap n failed) (room : n + 1 < UInt64.size) :
    s.recorder.identities.nextId ∉ s.recorder.skipped := by
  obtain ⟨given, ledger, listed⟩ := h.ledger
  intro next
  obtain ⟨_, a, ha⟩ := (h.skipped _).mp next
  exact ledger.fst_ne_nextId room (listed _ ha) rfl

/-- A living value that failed is still known. -/
theorem Orderly.identityOf_eq {m : Moment} {subject : Subject} {id : ObjectId}
    (h : s.Orderly m.heap n failed) (live : m.heap.isLive subject.allocation = true)
    (hx : (id, subject.allocation) ∈ failed) : s.recorder.identityOf m (some subject) = id := by
  obtain ⟨given, ledger, listed⟩ := h.ledger
  exact ledger.identify_eq (listed _ hx) live subject.typeName

/-- **A living value is skipped exactly if it failed.** -/
theorem Orderly.skipped_iff {m : Moment} {subject : Subject} (h : s.Orderly m.heap n failed)
    (live : m.heap.isLive subject.allocation = true) (room : n + 1 < UInt64.size) :
    s.recorder.identityOf m (some subject) ∈ s.recorder.skipped ↔
      ∃ id, (id, subject.allocation) ∈ failed := by
  rw [h.skipped]
  constructor
  · rintro ⟨_, a, ha⟩
    obtain ⟨given, ledger, listed⟩ := h.ledger
    -- The identity that is skipped belongs to one value for ever: to this one.
    have owner : a = subject.allocation :=
      ledger.owner_eq h.sound live room subject.typeName (listed _ ha) rfl
    rw [owner] at ha
    exact ⟨_, ha⟩
  · rintro ⟨id, hx⟩
    rw [h.identityOf_eq live hx]
    exact ⟨h.fst_ne_null (Nat.lt_of_succ_lt room) hx, subject.allocation, hx⟩

/-- **The ledger after a step** lists the value that failed. -/
theorem ledger_identitiesAfter (ledger : s.recorder.identities.Ledger step.moment.heap n given)
    (sound : step.moment.heap.Sound)
    (lives : ∀ subject, step.action.subject? = some subject →
      step.moment.heap.isLive subject.allocation = true) :
    ∃ added, (s.identitiesAfter step).Ledger step.moment.heap (n + step.ids) (added ++ given) ∧
      ∀ x, s.failure? step = some x → x ∈ added := by
  by_cases hs : s.suppressedOn step.thread = true
  · refine ⟨[], ?_, fun x hx => ?_⟩
    · unfold identitiesAfter
      rw [if_pos hs]
      exact ledger.mono (Nat.le_add_right n _)
    · -- Suppressed, nothing is tried.
      unfold failure? at hx
      split at hx
      · simp [Recorder.fails, hs] at hx
      · cases hx
  · unfold identitiesAfter failure? Step.ids
    rw [if_neg hs]
    cases action : step.action with
    | value probe subject =>
        cases subject with
        | none => exact ⟨[], ledger, fun x hx => nomatch hx⟩
        | some subject =>
            have live := lives subject (by rw [action]; rfl)
            refine ⟨[_], ledger.identify sound live subject.typeName, fun x hx => ?_⟩
            simp only at hx
            split at hx
            · exact List.mem_singleton.mpr (Option.some.inj hx).symm
            · cases hx
    | wrap w => exact ⟨[], ledger.issue, fun x hx => nomatch hx⟩
    | _ => exact ⟨[], ledger, fun x hx => nomatch hx⟩

/-- **Every step keeps a scene orderly.** -/
theorem Orderly.act (h : s.Orderly heap n failed) (evolves : heap.Evolves step.moment.heap)
    (lives : ∀ subject, step.action.subject? = some subject →
      step.moment.heap.isLive subject.allocation = true) :
    (s.act step).2.Orderly step.moment.heap (n + step.ids) (failed ++ (s.failure? step).toList) := by
  obtain ⟨sound, skipped, given, ledger, listed⟩ := h.evolve evolves
  obtain ⟨added, line, new⟩ := ledger_identitiesAfter ledger sound lives
  have marked := s.act_marked step
  refine ⟨sound, fun id => ?_, added ++ given, line.of_same marked.identities, fun x hx => ?_⟩
  · rw [marked.skipped, skipped]
    constructor
    · rintro (⟨hid, a, ha⟩ | ⟨a, ha, hid⟩)
      · exact ⟨hid, a, List.mem_append_left _ ha⟩
      · exact ⟨hid, a, List.mem_append_right _ (Option.mem_toList.mpr ha)⟩
    · rintro ⟨hid, a, ha⟩
      rcases List.mem_append.mp ha with ha | ha
      · exact .inl ⟨hid, a, ha⟩
      · exact .inr ⟨a, Option.mem_toList.mp ha, hid⟩
  · rcases List.mem_append.mp hx with hx | hx
    · exact List.mem_append_right _ (listed x hx)
    · exact List.mem_append_left _ (new x (Option.mem_toList.mp hx))

/-- **Runs keep a scene orderly.** -/
theorem Orderly.after : ∀ {steps : List Step} {s : Scene} {heap : Heap} {n : Nat}
    {failed : List (ObjectId × Allocation)}, s.Orderly heap n failed → Embodied heap steps →
    (s.after steps).Orderly (heapAfter heap steps) (n + identitiesIn steps) (failed ++ s.failures steps) := by
  intro steps
  induction steps with
  | nil =>
      intro s heap n failed h _
      rw [failures, List.append_nil]
      exact h
  | cons step rest ih =>
      intro s heap n failed h embodied
      obtain ⟨evolves, lives, hrest⟩ := embodied
      rw [identitiesIn_cons, ← Nat.add_assoc, failures, ← List.append_assoc]
      exact ih (h.act evolves lives) hrest

/-- Only probes that a run names become recordable in it. -/
theorem mem_recordable_of_after {p : ProbeId} : ∀ {steps : List Step} {s : Scene},
    p ∈ (s.after steps).recorder.recordable →
    p ∈ s.recorder.recordable ∨ ∃ step ∈ steps, p ∈ step.action.named := by
  intro steps
  induction steps with
  | nil => exact fun h => .inl h
  | cons step rest ih =>
      intro s h
      rcases ih h with h | ⟨x, hx, named⟩
      · rcases (s.act_marked step).recordable p h with named | old
        · exact .inr ⟨step, List.mem_cons_self, named⟩
        · exact .inl old.1
      · exact .inr ⟨x, List.mem_cons_of_mem _ hx, named⟩

/-- **Failures split** where runs do. -/
theorem failures_append (pre post : List Step) :
    ∀ s : Scene, s.failures (pre ++ post) = s.failures pre ++ (s.after pre).failures post := by
  induction pre with
  | nil => exact fun s => rfl
  | cons step rest ih =>
      intro s
      rw [List.cons_append, failures, ih, failures, List.append_assoc]
      rfl

theorem mem_failures_singleton {x : ObjectId × Allocation} :
    x ∈ s.failures [step] ↔ s.failure? step = some x := by
  rw [failures, failures, List.append_nil, Option.mem_toList]

/-- A value that is skipped is skipped for ever. -/
theorem mem_skipped_after {id : ObjectId} {steps : List Step} (h : id ∈ s.recorder.skipped) :
    id ∈ (s.after steps).recorder.skipped := by
  refine after_invariant (P := fun t => id ∈ t.recorder.skipped) (fun t step skipped => ?_) steps h
  exact ((t.act_marked step).skipped id).mpr (.inl skipped)

/-! ## Losses last -/

/-- What a call of the recorder wrote, as a turn of a history. -/
theorem written_of_logs {es : List Entry} (h : (s.facing step).Logs es (s.act step).2.recorder) :
    (s.turn step).written = es := written_of_log h.log

/-- A value that is not eligible, as a turn of a history. -/
theorem withoutPayload_of_not_eligible {probe : ProbeId} {subject : Option Subject}
    (action : step.action = .value probe subject)
    (h : s.recorder.isEligible probe (s.recorder.identityOf step.moment subject) = false) :
    Recorder.WithoutPayload (s.turn step).written := by
  have facing : (s.facing step).isEligible probe ((s.facing step).identityOf step.moment subject) = false := by
    rw [(s.facing_identity step step.moment subject).1]
    exact h
  obtain ⟨es, logs, without⟩ :=
    (s.facing step).recordValue_logs_of_not_eligible step.moment probe subject facing
  have recorder : (s.act step).2.recorder = (s.facing step).recordValue step.moment probe subject := by
    rw [recorder_act, s.perform_value action]
    rfl
  rw [← recorder] at logs
  rw [written_of_logs logs]
  exact without

/-- **Without values**: the events of the probe only identify values, and no call is opened there. -/
structure Barred (s : Scene) (step : Step) (p : ProbeId) : Prop where
  value : ∀ subject, step.action = .value p subject → Recorder.WithoutPayload (s.turn step).written
  producer : ∀ w, step.action = .wrap w → w.probe = p →
    Recorder.WithoutPayload (s.turn step).written ∧ (s.turn step).reply.opening? = none

/-- A probe that is not recordable is without values. -/
theorem barred_of_not_mem {p : ProbeId} (h : p ∉ s.recorder.recordable) : s.Barred step p := by
  have ineligible : ∀ id, s.recorder.isEligible p id = false := by
    intro id
    simp [Recorder.isEligible, h]
  constructor
  · intro subject action
    exact withoutPayload_of_not_eligible action (ineligible _)
  · rintro w action rfl
    obtain ⟨call, handed, reply, _⟩ := s.turn_handed action
    rw [reply]
    generalize (s.turn step).written = written at handed ⊢
    cases handed with
    | unnoticed _ => exact ⟨fun _ he => (nomatch he), rfl⟩
    | identified _ _ => exact ⟨fun e he => ⟨_, _, _, Recorder.mem_kept he⟩, rfl⟩
    | opened opens => simp [Recorder.opens, ineligible] at opens

/-- A failure costs the probe where it happens. -/
theorem removed_of_failure {x : ObjectId × Allocation} (h : s.failure? step = some x) :
    ∃ probe subject, step.action = .value probe (some subject) ∧ subject.allocation = x.2 ∧
      s.removed? step = some probe := by
  unfold failure? at h
  split at h
  · rename_i probe subject action
    split at h
    · rename_i fails
      refine ⟨probe, subject, action, congrArg Prod.snd (Option.some.inj h), ?_⟩
      simp only [removed?, action]
      exact if_pos (Recorder.bars_of_fails fails)
    · cases h
  · cases h

/-- **What probes and values lose is lost**, in a run from some scene. -/
structure Lasting (start : Scene) (steps : List Step) : Prop where
  /-- A value that fails costs the probe its values. -/
  failed : ∀ pre step post x, steps = pre ++ step :: post → (start.after pre).failure? step = some x →
    ∃ probe subject, step.action = .value probe (some subject) ∧ subject.allocation = x.2 ∧
      (start.after pre).removed? step = some probe
  /-- The probe gets none until the program names it again. -/
  barred : ∀ pre step mid later post p, steps = pre ++ step :: (mid ++ later :: post) →
    (start.after pre).removed? step = some p → (∀ x ∈ mid, p ∉ x.action.named) →
    p ∉ (start.after (pre ++ step :: mid)).recorder.recordable ∧
      (start.after (pre ++ step :: mid)).Barred later p
  shrinks : ∀ pre mid post p, steps = pre ++ (mid ++ post) →
    p ∈ (start.after (pre ++ mid)).recorder.recordable →
    p ∈ (start.after pre).recorder.recordable ∨ ∃ x ∈ mid, p ∈ x.action.named
  grows : ∀ pre mid post id, steps = pre ++ (mid ++ post) →
    id ∈ (start.after pre).recorder.skipped → id ∈ (start.after (pre ++ mid)).recorder.skipped
  /-- Polls leave both sets alone, whether or not the outcome can be serialized. -/
  polls : ∀ pre step post k, steps = pre ++ step :: post → step.action = .poll k →
    (start.after (pre ++ [step])).recorder.recordable = (start.after pre).recorder.recordable ∧
      (start.after (pre ++ [step])).recorder.skipped = (start.after pre).recorder.skipped

/-- **Every run is lasting.** -/
theorem lasting (start : Scene) (steps : List Step) : start.Lasting steps where
  failed := fun _ _ _ _ _ h => removed_of_failure h
  barred := by
    intro pre step mid later post p _ removed unnamed
    have gone : p ∉ (start.after (pre ++ step :: mid)).recorder.recordable := by
      rw [after_append]
      intro hp
      rcases mem_recordable_of_after (s := ((start.after pre).act step).2) hp with hp | ⟨x, hx, named⟩
      · exact not_mem_of_removed removed hp
      · exact unnamed x hx named
    exact ⟨gone, barred_of_not_mem gone⟩
  shrinks := by
    intro pre mid _ p _ hp
    rw [after_append] at hp
    exact mem_recordable_of_after hp
  grows := by
    intro pre mid _ id _ h
    rw [after_append]
    exact mem_skipped_after h
  polls := by
    intro pre step _ k _ action
    rw [after_append]
    have same := (start.after pre).poll_same step k
    show ((start.after pre).act step).2.recorder.recordable = _ ∧
      ((start.after pre).act step).2.recorder.skipped = _
    rw [recorder_act, perform_poll _ action]
    exact ⟨same.recordable, same.skipped⟩

/-! ## Skipped values -/

/-- **The values that failed are skipped**, in a run from some scene; the absent value is not. -/
structure SkipsFailed (start : Scene) (steps : List Step) : Prop where
  skipped : ∀ pre post, steps = pre ++ post → ∀ id,
    id ∈ (start.after pre).recorder.skipped ↔ id ≠ nullObject ∧ ∃ a, (id, a) ∈ start.failures pre
  /-- A value that failed keeps its identity, and none of its code is run for it again. -/
  ignored : ∀ pre step post probe subject id, steps = pre ++ step :: post →
    step.action = .value probe (some subject) → (id, subject.allocation) ∈ start.failures pre →
    id ≠ nullObject →
    (start.after pre).recorder.identityOf step.moment (some subject) = id ∧
      ((start.after pre).facing step).Ignores step.moment probe subject ∧
      Recorder.WithoutPayload ((start.after pre).turn step).written

/-- **Nobody else is skipped**, in a run from some scene. -/
structure SkipsOnlyFailed (start : Scene) (steps : List Step) : Prop where
  notNull : ∀ x ∈ start.failures steps, x.1 ≠ nullObject
  /-- A value's identity is skipped exactly if this value failed, wherever others lived and died. -/
  value : ∀ pre step post probe subject, steps = pre ++ step :: post →
    step.action = .value probe (some subject) →
    ((start.after pre).recorder.identityOf step.moment (some subject) ∈ (start.after pre).recorder.skipped ↔
      ∃ id, (id, subject.allocation) ∈ start.failures pre)
  producer : ∀ pre step post w, steps = pre ++ step :: post → step.action = .wrap w →
    (start.after pre).recorder.identities.nextId ∉ (start.after pre).recorder.skipped

section
variable {start : Scene} {pre post : List Step}

/-- A run from an orderly scene, halfway. -/
theorem Orderly.between (h : start.Orderly heap 0 []) (embodied : Embodied heap (pre ++ post)) :
    (start.after pre).Orderly (heapAfter heap pre) (identitiesIn pre) (start.failures pre) ∧
      Embodied (heapAfter heap pre) post := by
  obtain ⟨first, second⟩ := embodied_append embodied
  have orderly := h.after first
  rw [Nat.zero_add, List.nil_append] at orderly
  exact ⟨orderly, second⟩

/-- The scene in which a living value is recorded. -/
theorem Orderly.recording {probe : ProbeId} {subject : Subject} (h : start.Orderly heap 0 [])
    (embodied : Embodied heap (pre ++ step :: post)) (action : step.action = .value probe (some subject)) :
    (start.after pre).Orderly step.moment.heap (identitiesIn pre) (start.failures pre) ∧
      step.moment.heap.isLive subject.allocation = true := by
  obtain ⟨orderly, evolves, lives, _⟩ := h.between embodied
  exact ⟨orderly.evolve evolves, lives subject (by rw [action]; rfl)⟩

/-- One identity is left for a step that takes one. -/
theorem room_of_ids (room : identitiesIn (pre ++ step :: post) < UInt64.size) (one : step.ids = 1) :
    identitiesIn pre + 1 < UInt64.size := by
  rw [identitiesIn_append, identitiesIn_cons, one] at room
  omega

end

/-- **Runs from an orderly scene** skip the values that failed. -/
theorem Orderly.skipsFailed {start : Scene} {steps : List Step} (h : start.Orderly heap 0 [])
    (embodied : Embodied heap steps) : start.SkipsFailed steps := by
  constructor
  · rintro pre post rfl
    exact (h.between embodied).1.skipped
  · rintro pre step post probe subject id rfl action hx hid
    obtain ⟨orderly, live⟩ := h.recording embodied action
    have known := orderly.identityOf_eq live hx
    have ineligible : (start.after pre).recorder.isEligible probe
        ((start.after pre).recorder.identityOf step.moment (some subject)) = false := by
      rw [known]
      simp [Recorder.isEligible, (orderly.skipped id).mpr ⟨hid, _, hx⟩]
    exact ⟨known, Recorder.ignores_of_not_eligible ineligible, withoutPayload_of_not_eligible action ineligible⟩

/-- **Runs from an orderly scene** skip nobody else, while there are identities left. -/
theorem Orderly.skipsOnlyFailed {start : Scene} {steps : List Step} (h : start.Orderly heap 0 [])
    (embodied : Embodied heap steps) (room : identitiesIn steps < UInt64.size) :
    start.SkipsOnlyFailed steps := by
  constructor
  · intro x hx
    have orderly := h.after embodied
    rw [Nat.zero_add, List.nil_append] at orderly
    exact orderly.fst_ne_null room hx
  · rintro pre step post probe subject rfl action
    obtain ⟨orderly, live⟩ := h.recording embodied action
    exact orderly.skipped_iff live (room_of_ids room (Step.ids_value action))
  · rintro pre step post w rfl action
    exact (h.between embodied).1.nextId_not_mem (room_of_ids room (Step.ids_wrap action))

/-- A new recorder is orderly. -/
theorem orderly_scene {o : RecorderOptions} {sink : Sink} {r : Recorder}
    (built : Recorder.build o sink = .ok r)
    (fresh : ∃ capacity typeCapacity, o.identities = .new capacity typeCapacity) :
    r.scene.Orderly .empty 0 [] := by
  obtain ⟨policy, rfl⟩ := Recorder.eq_withPolicy_of_build built
  obtain ⟨capacity, typeCapacity, hnew⟩ := fresh
  refine ⟨Heap.empty_sound, fun id => ?_, [], ?_, fun x hx => nomatch hx⟩
  · constructor
    · exact fun h => nomatch h
    · exact fun ⟨_, a, ha⟩ => nomatch ha
  · show o.identities.Ledger .empty 0 []
    rw [hnew]
    exact IdentityMap.new_ledger capacity typeCapacity

end Scene

/-! ## Permanence -/

/-- **Failures and exclusions are permanent**, in every run of a new recorder. Nothing else is skipped while
    no identity is taken twice. -/
theorem run_permanent {o : RecorderOptions} {sink : Sink} {r : Recorder} {steps : List Step}
    (built : Recorder.build o sink = .ok r)
    (fresh : ∃ capacity typeCapacity, o.identities = .new capacity typeCapacity)
    (embodied : Embodied .empty steps) :
    r.scene.Lasting steps ∧ r.scene.SkipsFailed steps ∧
      (identitiesIn steps < UInt64.size → r.scene.SkipsOnlyFailed steps) := by
  have orderly := Scene.orderly_scene built fresh
  exact ⟨r.scene.lasting steps, orderly.skipsFailed embodied, orderly.skipsOnlyFailed embodied⟩

/-- A value that fails. -/
def brokenValue : Subject := .mk ⟨7, 0⟩ "app.Order" .plain (.done (.panic none))

/-- The same value, as if it could be serialized by now. -/
def mendedValue : Subject := .mk ⟨7, 0⟩ "app.Order" .plain (.done (.value .null))

/-- Another value that lives at its address later. -/
def laterValue : Subject := .mk ⟨7, 1⟩ "app.Order" .plain (.done (.value .null))

/-- The memory that the failing value lives in. -/
def firstMemory : Heap := (Heap.empty.allocate 7).2

/-- A value fails at one probe, is met at another one, and dies; then another value lives at its address. -/
def reuseSteps : List Step :=
  [⟨0, ⟨.empty, ⟨0, "main"⟩, 1⟩, fun _ => none, .mark [1, 2]⟩,
   ⟨0, ⟨firstMemory, ⟨1, "main"⟩, 2⟩, fun _ => none, .value 1 (some brokenValue)⟩,
   ⟨0, ⟨firstMemory, ⟨2, "main"⟩, 3⟩, fun _ => none, .value 2 (some mendedValue)⟩,
   ⟨0, ⟨((firstMemory.release ⟨7, 0⟩).allocate 7).2, ⟨3, "main"⟩, 4⟩, fun _ => none,
     .value 2 (some laterValue)⟩]

theorem embodied_reuseSteps : Embodied .empty reuseSteps := by
  have first : Heap.empty.Evolves firstMemory := .allocate .refl 7 fun b live => nomatch live
  have second : firstMemory.Evolves ((firstMemory.release ⟨7, 0⟩).allocate 7).2 :=
    .allocate (.release .refl ⟨7, 0⟩) 7 fun b live => nomatch live
  refine ⟨.refl, fun _ h => (nomatch h), first, ?_, .refl, ?_, second, ?_, trivial⟩
  · rintro _ ⟨⟩
    decide
  · rintro _ ⟨⟩
    decide
  · rintro _ ⟨⟩
    decide

theorem run_permanent_reuse :
    ∃ r, Recorder.build .capturing .empty = .ok r ∧
      r.scene.failures reuseSteps = [(1, ⟨7, 0⟩)] ∧
      (eventsOf (logOf (r.scene.history reuseSteps))).map (fun e => (e.probe, e.value, e.payload.isSome)) =
        [(1, 1, true), (2, 1, false), (2, 2, true)] ∧
      r.scene.Lasting reuseSteps ∧ r.scene.SkipsFailed reuseSteps ∧ r.scene.SkipsOnlyFailed reuseSteps := by
  have built := Recorder.build_capturing .empty
  obtain ⟨lasting, skips, only⟩ := run_permanent built ⟨65536, 1024, rfl⟩ embodied_reuseSteps
  exact ⟨_, built, by decide, by decide, lasting, skips, only (by decide)⟩

end ProbeRecorder
