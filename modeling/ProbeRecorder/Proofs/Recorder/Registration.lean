import ProbeRecorder.Proofs.Correlation
import ProbeRecorder.Recorder.Build
import ProbeRecorder.Recorder.Registration

/-!
# `ProbeRecorder.Proofs.Recorder.Registration` — registrations that the sink refuses

The recorder takes over a batch before it tells the sink about it. If the sink refuses, the class is
forgotten, so that it may be registered again; what was taken over stays.

## Contents
- **Batches.** What a batch says about a probe (`WeaveBatch.descriptor?`).
- **Adopting.** The recorder after a batch was taken over, probe by probe; `Recorder.Adopted`, what a
  registration that is not refused leaves.
- **Refusal.** `Recorder.Refused`, what a refused registration leaves, and `Recorder.Untouched`, which it
  is only for a batch that is `Familiar`; `Recorder.registerBatch_refused`.
-/

namespace ProbeRecorder

/-! ## Batches -/

/-- **The descriptor of a probe** in a batch; the last one counts. -/
def WeaveBatch.descriptor? (b : WeaveBatch) (probe : ProbeId) : Option Probe :=
  b.probes.reverse.find? fun d => d.id = probe

theorem Probe.get?_foldl_put (probe : ProbeId) (probes : List Probe) (m : FiniteMap ProbeId Probe) :
    (probes.foldl (fun m d => m.put d.id d) m).get? probe =
      (probes.reverse.find? fun d => d.id = probe).or (m.get? probe) := by
  induction probes generalizing m with
  | nil => rfl
  | cons d rest ih =>
      rw [List.foldl_cons, ih, FiniteMap.get?_put, List.reverse_cons, List.find?_append, Option.or_assoc]
      by_cases h : probe = d.id
      · simp [h]
      · simp [h, Ne.symm h]

/-- Only an empty batch has no anchor. -/
theorem WeaveBatch.anchor?_eq_none_iff (b : WeaveBatch) : b.anchor? = none ↔ b.probes = [] := by
  unfold anchor? probeIds
  rw [List.head?_eq_none_iff, List.map_eq_nil_iff]

theorem WeaveBatch.exists_anchor {b : WeaveBatch} (h : b.probes ≠ []) : ∃ anchor, b.anchor? = some anchor :=
  Option.ne_none_iff_exists'.mp (mt b.anchor?_eq_none_iff.mp h)

/-- The anchor of a batch is one of its probes. -/
theorem WeaveBatch.anchor_mem {b : WeaveBatch} {anchor : ProbeId} (h : b.anchor? = some anchor) :
    anchor ∈ b.probeIds :=
  List.mem_of_mem_head? h

namespace Recorder

variable {r after : Recorder} {b : WeaveBatch} {anchor : ProbeId}

/-! ## Adopting -/

theorem mem_recordable_adopt (r : Recorder) (b : WeaveBatch) (anchor probe : ProbeId) :
    probe ∈ (r.adopt b anchor).recordable ↔ probe ∈ referenceProbes b ∨ probe ∈ r.recordable :=
  FiniteSet.mem_insertAll r.recordable (referenceProbes b) probe

theorem get?_probes_adopt (r : Recorder) (b : WeaveBatch) (anchor probe : ProbeId) :
    (r.adopt b anchor).probes.get? probe = (b.descriptor? probe).or (r.probes.get? probe) :=
  Probe.get?_foldl_put probe b.probes r.probes

theorem anchor?_adopt (r : Recorder) (h : b.anchor? = some anchor) (probe : ProbeId) :
    (r.adopt b anchor).anchors.anchor? probe =
      if probe ∈ b.probeIds then some anchor else r.anchors.anchor? probe := by
  have hmem : probe = anchor → probe ∈ b.probeIds := fun he => he ▸ b.anchor_mem h
  unfold adopt
  rw [AnchorTable.anchor?_register]
  by_cases hp : probe ∈ b.probeIds
  · rw [if_pos (.inr hp), if_pos hp]
  · rw [if_neg fun hor => hp (hor.elim hmem id), if_neg hp]

/-- A class that was not known is forgotten without a trace. -/
theorem remove_insert_of_not_mem {s : FiniteSet ClassId} {c : ClassId} (h : c ∉ s) :
    (s.insert c).remove c = s := by
  have hmem : c ∉ s.members := h
  obtain ⟨members, nodup⟩ := s
  simp only [FiniteSet.insert, FiniteSet.remove, dif_neg hmem, FiniteSet.mk.injEq]
  rw [List.filter_cons_of_neg (by simp), List.filter_eq_self]
  intro x hx
  simp only [decide_eq_true_eq]
  rintro rfl
  exact hmem hx

/-- **What a registration that is not refused leaves**: the batch was taken over, and its class is known. -/
structure Adopted (r : Recorder) (b : WeaveBatch) (after : Recorder) : Prop where
  classes : ∀ c, c ∈ after.classes ↔ c = b.classId ∨ c ∈ r.classes
  recordable : ∀ p, p ∈ after.recordable ↔ p ∈ referenceProbes b ∨ p ∈ r.recordable
  probes : ∀ p, after.probes.get? p = (b.descriptor? p).or (r.probes.get? p)
  anchors : ∀ p, after.anchors.anchor? p = if p ∈ b.probeIds then b.anchor? else r.anchors.anchor? p

/-- **A new class is registered** if the sink takes it, or if nothing is kept. -/
theorem registerBatch_adopted (first : b.anchor? = some anchor) (new : b.classId ∉ r.classes)
    (taken : r.discards = true ∨ r.sink.refusal .register = none) :
    (r.registerBatch b).1 = .ok () ∧ Adopted r b (r.registerBatch b).2 := by
  have adopted : ∀ sink, Adopted r b { r.adopt b anchor with sink := sink } := by
    intro sink
    refine ⟨fun c => FiniteSet.mem_insert r.classes b.classId c, r.mem_recordable_adopt b anchor,
      r.get?_probes_adopt b anchor, fun p => ?_⟩
    rw [first]
    exact r.anchor?_adopt first p
  have registered : r.registerBatch b = (r.adopt b anchor).announce b := by
    unfold registerBatch
    rw [first]
    exact if_neg new
  rw [registered]
  unfold announce
  by_cases discards : (r.adopt b anchor).discards = true
  · rw [if_pos discards]
    exact ⟨rfl, adopted r.sink⟩
  · have open_ : (r.adopt b anchor).sink.refusal .register = none := taken.resolve_left discards
    rw [if_neg discards]
    unfold Sink.register Sink.accept
    rw [open_]
    exact ⟨rfl, adopted _⟩

/-! ## Refusal -/

/-- **Nothing happened**, as far as anybody can ask: recordable probes, descriptors, the anchor table and
    its length, classes, skipped values and statistics. -/
structure Untouched (r after : Recorder) : Prop where
  recordable : ∀ p, p ∈ after.recordable ↔ p ∈ r.recordable
  probes : ∀ p, after.probes.get? p = r.probes.get? p
  anchors : ∀ p, after.anchors.anchor? p = r.anchors.anchor? p
  size : after.anchors.size = r.anchors.size
  classes : after.classes = r.classes
  skipped : after.skipped = r.skipped
  stats : after.stats = r.stats

/-- **A batch that says nothing new**: its reference probes are recordable, its descriptors are the ones
    known, and its probes have its anchor. -/
structure Familiar (r : Recorder) (b : WeaveBatch) : Prop where
  recordable : ∀ p ∈ referenceProbes b, p ∈ r.recordable
  probes : ∀ p d, b.descriptor? p = some d → r.probes.get? p = some d
  anchors : ∀ p ∈ b.probeIds, r.anchors.anchor? p = b.anchor?

/-- **What a refused registration leaves.** The batch was taken over, and only its class is forgotten; the
    log, skipped values, identities, the clock and the statistics are as before. -/
structure Refused (r : Recorder) (b : WeaveBatch) (after : Recorder) : Prop where
  state : after = { r with
    recordable := after.recordable, probes := after.probes, anchors := after.anchors }
  recordable : ∀ p, p ∈ after.recordable ↔ p ∈ referenceProbes b ∨ p ∈ r.recordable
  probes : ∀ p, after.probes.get? p = (b.descriptor? p).or (r.probes.get? p)
  anchors : ∀ p, after.anchors.anchor? p = if p ∈ b.probeIds then b.anchor? else r.anchors.anchor? p

/-- **A refused registration goes unnoticed** exactly if its batch says nothing new. -/
theorem Refused.untouched_iff (h : Refused r b after) : Untouched r after ↔ Familiar r b := by
  constructor
  · intro same
    refine ⟨fun p hp => ?_, fun p d hd => ?_, fun p hp => ?_⟩
    · exact (same.recordable p).mp ((h.recordable p).mpr (.inl hp))
    · rw [← same.probes, h.probes, hd]
      rfl
    · rw [← same.anchors, h.anchors, if_pos hp]
  · intro known
    have hanchors : ∀ p, after.anchors.anchor? p = r.anchors.anchor? p := by
      intro p
      rw [h.anchors]
      split
      · exact (known.anchors p ‹_›).symm
      · rfl
    refine ⟨fun p => ?_, fun p => ?_, hanchors, ?_, ?_, ?_, ?_⟩
    · rw [h.recordable]
      exact ⟨fun hor => hor.elim (known.recordable p) id, .inr⟩
    · rw [h.probes]
      cases hd : b.descriptor? p with
      | none => rfl
      | some d => exact (known.probes p d hd).symm
    · exact FiniteMap.size_congr fun p => congrArg Option.isSome (hanchors p)
    · rw [h.state]
    · rw [h.state]
    · rw [h.state]

/-- Adopting a batch and forgetting its class again. -/
theorem refused_adopt (r : Recorder) (h : b.anchor? = some anchor) (new : b.classId ∉ r.classes) :
    Refused r b { r.adopt b anchor with classes := (r.adopt b anchor).classes.remove b.classId } := by
  refine ⟨?_, r.mem_recordable_adopt b anchor, r.get?_probes_adopt b anchor, ?_⟩
  · have hclasses : (r.adopt b anchor).classes.remove b.classId = r.classes := remove_insert_of_not_mem new
    rw [hclasses]
    rfl
  · intro p
    rw [h]
    exact r.anchor?_adopt h p

/-- The sink was asked, and its error is passed on. -/
theorem announce_error {e : RecorderError} (failed : r.announce b = (.error e, after)) :
    r.discards = false ∧ ∃ cause, r.sink.refusal .register = some cause ∧
      e = refusedRegistration b cause ∧ after = { r with classes := r.classes.remove b.classId } := by
  unfold announce at failed
  split at failed
  · cases failed
  · rename_i hkeeps
    unfold Sink.register Sink.accept at failed
    cases hcause : r.sink.refusal .register with
    | none =>
        rw [hcause] at failed
        cases failed
    | some cause =>
        rw [hcause] at failed
        obtain ⟨he, hafter⟩ := Prod.mk.inj failed
        exact ⟨(Bool.not_eq_true _).mp hkeeps, cause, rfl, (Except.error.inj he).symm, hafter.symm⟩

/-- **A registration that fails** was refused by the sink, whose error it gives. It leaves the recorder as
    it was only if the batch said nothing new. -/
theorem registerBatch_refused {e : RecorderError} (failed : r.registerBatch b = (.error e, after)) :
    r.discards = false ∧ b.classId ∉ r.classes ∧
      (∃ cause, r.sink.refusal .register = some cause ∧ e = refusedRegistration b cause) ∧
      Refused r b after ∧ (Untouched r after ↔ Familiar r b) := by
  unfold registerBatch at failed
  cases hanchor : b.anchor? with
  | none =>
      rw [hanchor] at failed
      cases failed
  | some anchor =>
      rw [hanchor] at failed
      simp only at failed
      by_cases hknown : b.classId ∈ r.classes
      · rw [if_pos hknown] at failed
        cases failed
      · rw [if_neg hknown] at failed
        -- Adopting changes neither the sink nor whether it is asked.
        obtain ⟨hkeeps, cause, hcause, he, rfl⟩ := announce_error failed
        have refused := r.refused_adopt hanchor hknown
        exact ⟨hkeeps, hknown, ⟨cause, hcause, he⟩, refused, refused.untouched_iff⟩

/-- **A registration is refused** if its class is new and the sink does not take it. -/
theorem registerBatch_error (first : b.anchor? = some anchor) (new : b.classId ∉ r.classes)
    (keeps : r.discards = false) {cause : RecorderError} (refused : r.sink.refusal .register = some cause) :
    (r.registerBatch b).1 = .error (refusedRegistration b cause) := by
  have sink : (r.adopt b anchor).sink.refusal .register = some cause := refused
  have discards : (r.adopt b anchor).discards = false := keeps
  unfold registerBatch
  rw [first]
  simp only [new, if_false]
  unfold announce Sink.register Sink.accept
  rw [discards, sink]
  rfl

/-- A class of two probes whose values are references. -/
def storefront : WeaveBatch :=
  ⟨3, "app.Store", [⟨30, .call, .object, 3, 4, ""⟩, ⟨31, .call, .object, 3, 4, ""⟩]⟩

/-- A sink that takes no registration. -/
def closedSink : Sink :=
  ⟨[], fun call => if call = .register then some ⟨.sink, "disk full"⟩ else none⟩

theorem registerBatch_refused_storefront :
    ∃ r after, Recorder.build {} closedSink = .ok r ∧
      r.registerBatch storefront = (.error (refusedRegistration storefront ⟨.sink, "disk full"⟩), after) ∧
      Refused r storefront after ∧ ¬ Untouched r after := by
  obtain ⟨r, hbuilt⟩ : ∃ r, Recorder.build {} closedSink = .ok r := ⟨_, rfl⟩
  have hunknown : (30 : ProbeId) ∉ r.recordable := by
    cases hbuilt
    decide
  have failed : ∃ after, r.registerBatch storefront =
      (.error (refusedRegistration storefront ⟨.sink, "disk full"⟩), after) := by
    cases hbuilt
    exact ⟨_, rfl⟩
  obtain ⟨after, failed⟩ := failed
  obtain ⟨-, -, -, refused, unnoticed⟩ := registerBatch_refused failed
  refine ⟨r, after, hbuilt, failed, refused, ?_⟩
  intro same
  exact hunknown ((unnoticed.mp same).recordable 30 (by decide))

/-- **A registration that fails leaves traces**: probes that nobody registered are recordable, and have an
    anchor that the log knows nothing about. -/
theorem refused_registration_leaves_traces :
    ∃ r after, Recorder.build {} closedSink = .ok r ∧
      r.registerBatch storefront = (.error (refusedRegistration storefront ⟨.sink, "disk full"⟩), after) ∧
      after.sink.log = [] ∧
      r.isRecordable 31 = false ∧ after.isRecordable 31 = true ∧
      r.anchors.anchorOf 31 = 31 ∧ after.anchors.anchorOf 31 = 30 ∧
      r.anchors.size = 0 ∧ after.anchors.size = 2 ∧
      r.probes.get? 31 = none ∧ after.probes.get? 31 = some ⟨31, .call, .object, 3, 4, ""⟩ :=
  ⟨_, _, rfl, rfl, rfl, rfl, rfl, rfl, rfl, rfl, rfl, rfl, rfl⟩

end Recorder
end ProbeRecorder
