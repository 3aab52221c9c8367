import Mathlib.Data.List.Nodup
import ProbeRecorder.Proofs.Program.Completions

/-!
# `ProbeRecorder.Proofs.Program.Sources` — where the events of a run come from

An event in the log does not say whether it is a completion. Its history does: `traced` keeps with every
event what the step that wrote it came to.

## Contents
- **Tags.** Events of `traced`, and what their tags say about them.
- **Owners.** A completion is written under the call of an opening (`completion_of_traced`).
- **Openings.** Every opening is a step that handed over a producer; wrappers tell openings apart.
- **Anchor tables.** The recorder's table is the one that its log gives (`anchors_eq_ofWeaves`), and keeps
  the anchors that calls were opened with (`anchorOf_opening`).
-/

namespace ProbeRecorder

/-! ## Tags -/

theorem traced_events (h : List Turn) : (traced h).map Prod.snd = eventsOf (logOf h) := by
  induction h with
  | nil => rfl
  | cons turn rest ih =>
      rw [traced_cons, logOf_cons, List.map_append, eventsOf_append, ih, List.map_map]
      exact congrArg (· ++ _) (List.map_id _)

/-- The events that polls of a wrapper wrote. -/
theorem traced_of_wrapper (h : List Turn) (k : Nat) :
    ((traced h).filter fun x => (x.1.answer? k).isSome).map Prod.snd = eventsOf (writtenFor h k) := by
  induction h with
  | nil => rfl
  | cons turn rest ih =>
      rw [traced_cons, writtenFor_cons, List.filter_append, List.map_append, eventsOf_append, ih]
      refine congrArg (· ++ _) ?_
      rw [List.filter_map, List.map_map]
      show ((eventsOf turn.written).filter fun _ => (turn.reply.answer? k).isSome).map id = _
      by_cases hr : (turn.reply.answer? k).isSome = true
      · rw [if_pos hr, List.filter_eq_self.mpr fun _ _ => hr, List.map_id]
      · rw [if_neg hr, List.filter_eq_nil_iff.mpr fun _ _ => hr]
        rfl

theorem eventsOf_map_event (events : List Event) : eventsOf (events.map .event) = events := by
  unfold eventsOf
  rw [List.filterMap_map]
  exact List.filterMap_some

namespace Scene

variable {s t : Scene} {es : List Entry} {step : Step} {reply : Reply}

/-- Whatever holds of the events of each turn, holds of the traced events of a run. -/
theorem traced_of_turns {P : Reply → Event → Prop}
    (turns : ∀ (s : Scene) (step : Step) (e : Event),
      e ∈ eventsOf (s.turn step).written → P (s.turn step).reply e) :
    ∀ (steps : List Step) (s : Scene), ∀ x ∈ traced (s.history steps), P x.1 x.2 := by
  intro steps
  induction steps with
  | nil => exact fun _ _ hx => nomatch hx
  | cons step rest ih =>
      intro s x hx
      rw [history_cons, traced_cons] at hx
      rcases List.mem_append.mp hx with hx | hx
      · obtain ⟨e, he, rfl⟩ := List.mem_map.mp hx
        exact turns s step e he
      · exact ih (s.act step).2 x hx

/-- **What a tag says** about anchors: an event is one where a call was opened. -/
structure Tagged (reply : Reply) (e : Event) : Prop where
  isAnchor : e.isAnchor = reply.opening?.isSome
  correlation : e.correlation? = reply.opening?.map fun o => o.call.correlation
  probe : ∀ o, reply.opening? = some o → e.probe = o.probe

theorem Fitting.tagged {codec : Codec} {e : Event} (h : Fitting codec s reply e) : Tagged reply e := by
  refine ⟨?_, h.correlation?, ?_⟩ <;> cases reply with
  | silent =>
      obtain ⟨stamp, probe, value, payload, rfl⟩ := h
      first | rfl | exact fun o ho => nomatch ho
  | opened o =>
      obtain ⟨stamp, object, rfl⟩ := h
      first | rfl | exact fun o' ho => by rw [← Option.some.inj ho]; rfl
  | polled k answer =>
      obtain ⟨p, call, stamp, outcome, _, _, _, rfl⟩ := h
      first | rfl | exact fun o ho => nomatch ho

theorem tagged_of_traced (steps : List Step) (s : Scene) {x : Reply × Event}
    (hx : x ∈ traced (s.history steps)) : Tagged x.1 x.2 :=
  traced_of_turns (fun s step _ he => ((s.turn_effect step).2.event_fits he).tagged) steps s x hx

/-! ## Owners -/

/-- The calls of all wrappers belong to some openings. -/
def Owned (s : Scene) (os : List Opening) : Prop :=
  ∀ k p call, s.wrapper? k = some p → p.call = some call → ∃ o ∈ os, o.wrapper = k ∧ o.call = call

theorem Effect.owned (h : s.Effect step reply es t) {os : List Opening} (owned : s.Owned os) :
    t.Owned (os ++ reply.opening?.toList) := by
  intro k p call hp hc
  have known : s.wrapper? k = some p → ∃ o ∈ os ++ reply.opening?.toList, o.wrapper = k ∧ o.call = call := by
    intro hp
    obtain ⟨o, ho, hk, hcall⟩ := owned k p call hp hc
    exact ⟨o, List.mem_append_left _ ho, hk, hcall⟩
  have same : t.wrappers = s.wrappers → s.wrapper? k = some p := by
    intro hw
    unfold wrapper? at hp ⊢
    rw [← hw, hp]
  -- A call comes to a wrapper only where it is opened; a poll may take it away.
  cases h with
  | aside _ hw _ => exact known (same hw)
  | dropped j _ hw =>
      rw [wrapper?_of_set hw] at hp
      split at hp
      · cases hp
      · exact known hp
  | passed q _ closed hw _ =>
      rw [wrapper?_of_append hw] at hp
      split at hp
      · rw [← Option.some.inj hp, closed] at hc
        cases hc
      · exact known hp
  | opened w _ _ _ _ hw =>
      rw [wrapper?_of_append hw] at hp
      split at hp
      · rename_i hk
        rw [← Option.some.inj hp] at hc
        exact ⟨_, List.mem_append_right _ List.mem_cons_self, hk.symm, Option.some.inj hc⟩
      · exact known hp
  | polled j q q' answer _ present hw _ hcall =>
      rw [wrapper?_of_set hw] at hp
      split at hp
      · rename_i hj
        rw [← Option.some.inj hp, hcall] at hc
        split at hc
        · cases hc
        · obtain ⟨o, ho, hk, ho'⟩ := owned j q call present hc
          exact ⟨o, List.mem_append_left _ ho, hk.trans hj.1, ho'⟩
      · exact known hp
  | woven _ _ _ _ _ _ _ hw => exact known (same hw)

/-- **Who owns the calls** of all wrappers after a run. -/
theorem owned_after : ∀ (steps : List Step) (s : Scene) (os : List Opening), s.Owned os →
    (s.after steps).Owned (os ++ openings (s.history steps)) := by
  intro steps
  induction steps with
  | nil =>
      intro s os owned
      rw [show openings (s.history []) = [] from rfl, List.append_nil]
      exact owned
  | cons step rest ih =>
      intro s os owned
      have next := ih (s.act step).2 _ ((s.turn_effect step).2.owned owned)
      rwa [List.append_assoc, ← openings_cons, ← history_cons] at next

/-- **A poll that writes something** writes a completion, for a call that was opened before. -/
theorem completion_of_polled {r : Recorder} {pre : List Step} {poll : Step} {k : Nat} {answer : Polled}
    {e : Event} (polled : ((r.scene.after pre).turn poll).reply = .polled k answer)
    (written : e ∈ eventsOf ((r.scene.after pre).turn poll).written) :
    ∃ o ∈ openings (r.scene.history pre), o.wrapper = k ∧
      ∃ stamp outcome, e = o.call.completion r.codec stamp outcome := by
  have owned := owned_after pre r.scene [] fun k p call hp => nomatch hp
  have hcodec := (after_extends pre r.scene).codec
  have fits := ((r.scene.after pre).turn_effect poll).2.event_fits written
  rw [polled, hcodec] at fits
  obtain ⟨p, call, stamp, outcome, hp, hc, _, heq⟩ := fits
  obtain ⟨o, ho, hwrapper, hcall⟩ := owned k p call hp hc
  exact ⟨o, ho, hwrapper, stamp, outcome, by rw [hcall]; exact heq⟩

/-- **Every completion has an owner**: the opening of the wrapper whose poll wrote it. -/
theorem completion_of_traced {r : Recorder} (steps : List Step) {x : Reply × Event}
    (hx : x ∈ traced (r.scene.history steps)) {k : Nat} {answer : Polled} (hk : x.1 = .polled k answer) :
    ∃ o ∈ openings (r.scene.history steps), o.wrapper = k ∧
      ∃ stamp outcome, x.2 = o.call.completion r.codec stamp outcome := by
  obtain ⟨turn, hturn, hx⟩ := List.mem_flatMap.mp hx
  obtain ⟨e, he, rfl⟩ := List.mem_map.mp hx
  obtain ⟨pre, poll, post, rfl, rfl⟩ := exists_step_of_mem_history steps r.scene hturn
  obtain ⟨o, ho, hwrapper, hcompletion⟩ := completion_of_polled hk he
  refine ⟨o, ?_, hwrapper, hcompletion⟩
  rw [history_append, openings_append]
  exact List.mem_append_left _ ho

/-! ## Openings -/

/-- **Every opening is a step** that handed over a producer, whose call was then opened. -/
theorem exists_wrap_of_mem_openings {o : Opening} {steps : List Step} {s : Scene}
    (ho : o ∈ openings (s.history steps)) :
    ∃ pre step post w, steps = pre ++ step :: post ∧ step.action = .wrap w ∧
      ((s.after pre).facing step).opens w.probe w.typeName = true ∧
      o = ⟨(s.after pre).wrappers.length, w.probe, w.kind, (s.after pre).nextCall step w.probe⟩ := by
  obtain ⟨turn, hturn, hreply⟩ := List.mem_filterMap.mp ho
  obtain ⟨pre, step, post, hsteps, rfl⟩ := exists_step_of_mem_history steps s hturn
  refine ⟨pre, step, post, ?_⟩
  -- The reply names an opening, so the step is the one of the two kinds that opens a call.
  rcases ((s.after pre).turn_effect step).2.opening_cases with ⟨hnone, _⟩ | ⟨w, haction, hopened, _, _⟩
  · rw [hnone] at hreply
    cases hreply
  · rw [hopened] at hreply
    refine ⟨w, hsteps, haction, ?_, (Option.some.inj hreply).symm⟩
    obtain ⟨call, handed, hr, _⟩ := (s.after pre).turn_handed haction
    rw [hopened] at hr
    generalize ((s.after pre).turn step).written = written at handed
    cases handed with
    | unnoticed _ => cases hr
    | identified _ _ => cases hr
    | opened opens => exact opens

/-- Wrappers of openings ascend. -/
theorem openings_wrappers : ∀ (steps : List Step) (s : Scene),
    (∀ o ∈ openings (s.history steps), s.wrappers.length ≤ o.wrapper) ∧
      (openings (s.history steps)).Pairwise fun o o' => o.wrapper < o'.wrapper := by
  intro steps
  induction steps with
  | nil => exact fun s => ⟨fun _ ho => (nomatch ho), List.Pairwise.nil⟩
  | cons step rest ih =>
      intro s
      obtain ⟨hle, hpair⟩ := ih (s.act step).2
      have heff := (s.turn_effect step).2
      have hle' : ∀ o ∈ openings ((s.act step).2.history rest), s.wrappers.length ≤ o.wrapper :=
        fun o ho => Nat.le_trans heff.wrappers_length_le (hle o ho)
      rw [history_cons, openings_cons]
      rcases heff.opening_cases with ⟨hr, _⟩ | ⟨w, _, hr, _, hlength⟩
      · rw [hr]
        exact ⟨hle', hpair⟩
      · rw [hr]
        refine ⟨fun o ho => ?_, List.pairwise_cons.mpr ⟨fun o ho => ?_, hpair⟩⟩
        · rcases List.mem_cons.mp ho with rfl | ho
          · exact Nat.le_refl _
          · exact hle' o ho
        · have hlater := hle o ho
          rw [hlength] at hlater
          exact hlater

/-- An opening is known by its wrapper. -/
theorem opening_eq_of_wrapper {steps : List Step} {s : Scene} {o o' : Opening}
    (ho : o ∈ openings (s.history steps)) (ho' : o' ∈ openings (s.history steps))
    (h : o.wrapper = o'.wrapper) : o = o' := by
  have hnodup : ((openings (s.history steps)).map Opening.wrapper).Nodup :=
    List.pairwise_map.mpr ((openings_wrappers steps s).2.imp Nat.ne_of_lt)
  exact List.inj_on_of_nodup_map hnodup ho ho' h

/-- **The completions of an opening**, all over the history of its run. -/
theorem traced_of_opening (r : Recorder) (steps : List Step) (hclock : r.clock = .initial)
    (keeps : r.discards = false) (accepting : Accepting steps) (remains : ClockRemains steps) {o : Opening}
    (ho : o ∈ openings (r.scene.history steps)) :
    ((traced (r.scene.history steps)).filter fun x => (x.1.answer? o.wrapper).isSome).map Prod.snd =
      o.call.completions r.codec (o.kind.reported (answersOf (r.scene.history steps) o.wrapper)) := by
  have distinct := openings_nodup r.scene steps hclock remains
  obtain ⟨pre, step, post, w, rfl, haction, hopens, rfl⟩ := exists_wrap_of_mem_openings ho
  -- Nothing is written for the wrapper before it is made, nor by the step that makes it.
  have recorded := recorded_of_opens r.scene pre post haction keeps accepting distinct hopens
  have hnone := recorded.reply
  have hbefore := (silent_before pre r.scene (Nat.le_refl _)).2
  rw [traced_of_wrapper, history_append, history_cons, writtenFor_append, answersOf_append, recorded.before,
    hbefore, writtenFor_cons, answersOf_cons_of_none _ (by rw [hnone]; rfl), hnone, recorded.completed]
  exact eventsOf_map_event _

end Scene

/-! ## Anchor tables -/

namespace AnchorTable

/-- One more registration. -/
theorem ofWeaves_concat (weaves : List (ClassId × List ProbeId)) (c : ClassId) {anchor : ProbeId}
    {probes : List ProbeId} (h : probes.head? = some anchor) :
    ofWeaves (weaves ++ [(c, probes)]) = (ofWeaves weaves).register anchor probes := by
  cases probes with
  | nil => cases h
  | cons first rest =>
      rw [← Option.some.inj h]
      unfold ofWeaves
      rw [List.foldl_append]
      rfl

/-- A registration says nothing about other probes. -/
theorem anchorOf_register_of_not_mem (t : AnchorTable) {anchor probe : ProbeId} {probes : List ProbeId}
    (ha : probes.head? = some anchor) (h : probe ∉ probes) :
    (t.register anchor probes).anchorOf probe = t.anchorOf probe := by
  -- The anchor is bound to itself besides the probes, but it is one of them.
  have hne : probe ≠ anchor := fun he => h (he ▸ List.mem_of_mem_head? ha)
  unfold anchorOf
  rw [anchor?_register, if_neg (not_or.mpr ⟨hne, h⟩)]

end AnchorTable

namespace Scene

variable {s t : Scene} {es : List Entry} {step : Step} {reply : Reply}

/-- **One step** takes the table of the log before it to the table of the log after it. -/
theorem Effect.anchors_eq (h : s.Effect step reply es t) {log : List Entry}
    (keeps : s.recorder.discards = false) (accepting : ∀ call, step.refusal call = none)
    (hs : s.recorder.anchors = .ofWeaves (weavesOf log)) :
    t.recorder.anchors = .ofWeaves (weavesOf (log ++ es)) := by
  have quiet : t.recorder.anchors = s.recorder.anchors → (∀ e ∈ es, ∃ event, e = .event event) →
      t.recorder.anchors = .ofWeaves (weavesOf (log ++ es)) := by
    intro hanchors hes
    rw [hanchors, hs, weavesOf_append, weavesOf_eq_nil hes, List.append_nil]
  have ordinary : Recorder.AtMostOrdinary es → ∀ e ∈ es, ∃ event, e = .event event := by
    intro ho e he
    obtain ⟨_, _, _, _, heq⟩ := ho e he
    exact ⟨_, heq⟩
  cases h with
  | aside still _ ho => exact quiet still.anchors (ordinary ho)
  | dropped _ still _ => exact quiet still.anchors fun _ he => nomatch he
  | passed _ still _ _ ho => exact quiet still.anchors (ordinary ho)
  | opened w object _ _ hanchors _ => exact quiet hanchors fun _ he => ⟨_, Recorder.mem_kept he⟩
  | polled k p q answer still _ _ _ _ =>
      apply quiet still.anchors
      intro e he
      unfold Recorder.reported at he
      split at he
      · exact ⟨_, Recorder.mem_kept he⟩
      · cases he
  | woven b anchor _ first _ _ hanchors _ =>
      rw [Recorder.kept_of_accepting (r := s.facing step) _ keeps (accepting .register), weavesOf_append,
        hanchors, hs]
      exact (AnchorTable.ofWeaves_concat _ b.classId first).symm

/-- **The table of a recorder is the table of its log.** -/
theorem anchors_eq_ofWeaves : ∀ (steps : List Step) (s : Scene), s.recorder.discards = false →
    Accepting steps → s.recorder.anchors = .ofWeaves (weavesOf s.recorder.sink.log) →
    (s.after steps).recorder.anchors = .ofWeaves (weavesOf (s.after steps).recorder.sink.log) := by
  intro steps
  induction steps with
  | nil => exact fun _ _ _ hs => hs
  | cons step rest ih =>
      intro s keeps accepting hs
      obtain ⟨hext, heff⟩ := s.turn_effect step
      refine ih (s.act step).2 (hext.discards.trans keeps)
        (fun x hx => accepting x (List.mem_cons_of_mem _ hx)) ?_
      rw [hext.log]
      exact heff.anchors_eq keeps (accepting step List.mem_cons_self) hs

theorem Effect.anchorOf_eq (h : s.Effect step reply es t) {probe : ProbeId}
    (known : ∀ b, step.action = .register b → probe ∈ b.probeIds → b.classId ∈ s.recorder.classes) :
    t.recorder.anchors.anchorOf probe = s.recorder.anchors.anchorOf probe := by
  cases h with
  | aside still _ _ => rw [still.anchors]
  | dropped _ still _ => rw [still.anchors]
  | passed _ still _ _ _ => rw [still.anchors]
  | opened _ _ _ _ hanchors _ => rw [hanchors]
  | polled _ _ _ _ still _ _ _ _ => rw [still.anchors]
  | woven b anchor action first new _ hanchors _ =>
      rw [hanchors]
      exact AnchorTable.anchorOf_register_of_not_mem _ first fun hp => new (known b action hp)

/-- The anchor of a probe does not change while only classes known already are registered with it. -/
theorem anchorOf_after (probe : ProbeId) : ∀ (steps : List Step) (s : Scene),
    (∀ step ∈ steps, ∀ b, step.action = .register b → probe ∈ b.probeIds → b.classId ∈ s.recorder.classes) →
    (s.after steps).recorder.anchors.anchorOf probe = s.recorder.anchors.anchorOf probe := by
  intro steps
  induction steps with
  | nil => exact fun _ _ => rfl
  | cons step rest ih =>
      intro s known
      obtain ⟨hext, heff⟩ := s.turn_effect step
      have hrest := ih (s.act step).2 fun x hx b hb hp =>
        hext.classes _ (known x (List.mem_cons_of_mem _ hx) b hb hp)
      refine hrest.trans (heff.anchorOf_eq fun b hb hp => known step List.mem_cons_self b hb hp)

/-- **Registrations come first**: a batch that names a probe at which a call was opened was registered before
    it was opened. It may be registered again later. -/
def RegisteredFirst (s : Scene) (steps : List Step) : Prop :=
  ∀ (pre : List Step) (step : Step) (post : List Step) (w : Wrap), steps = pre ++ step :: post →
    step.action = .wrap w → ((s.after pre).facing step).opens w.probe w.typeName = true →
    ∀ later ∈ post, ∀ b, later.action = .register b → w.probe ∈ b.probeIds →
    ∃ earlier ∈ pre, earlier.action = .register b

/-- The class of a batch is known once it was registered. -/
theorem classId_mem_after {b : WeaveBatch} {earlier : Step} (action : earlier.action = .register b)
    (hb : b.anchor? ≠ none) {pre : List Step} (s : Scene) (accepting : Accepting pre) (h : earlier ∈ pre) :
    b.classId ∈ (s.after pre).recorder.classes := by
  obtain ⟨front, back, rfl⟩ := List.append_of_mem h
  rw [after_append]
  refine (after_extends back ((s.after front).act earlier).2).classes _ ?_
  rw [act_register action]
  exact Recorder.mem_classes_registerBatch b (.inr ⟨rfl, hb, accepting earlier h .register⟩)

/-- **Anchors stay**: the table after the run gives the probe of an opening the anchor that the call was
    opened with. -/
theorem anchorOf_opening {s : Scene} {steps : List Step} (accepting : Accepting steps)
    (first : RegisteredFirst s steps) {o : Opening} (ho : o ∈ openings (s.history steps)) :
    (s.after steps).recorder.anchors.anchorOf o.probe = o.call.anchor := by
  obtain ⟨pre, step, post, w, rfl, haction, hopens, rfl⟩ := exists_wrap_of_mem_openings ho
  -- From the opening on, a batch that names the probe is of a class that is known already.
  have known : ∀ x ∈ step :: post, ∀ b, x.action = .register b → w.probe ∈ b.probeIds →
      b.classId ∈ (s.after pre).recorder.classes := by
    intro x hx b hb hp
    rcases List.mem_cons.mp hx with rfl | hx
    · rw [haction] at hb
      cases hb
    · obtain ⟨earlier, he, haction'⟩ := first pre step post w rfl haction hopens x hx b hb hp
      have hne : b.anchor? ≠ none := by
        unfold WeaveBatch.anchor?
        intro hnone
        rw [List.head?_eq_none_iff.mp hnone] at hp
        cases hp
      exact classId_mem_after haction' hne s (fun y hy => accepting y (List.mem_append_left _ hy)) he
  rw [after_append]
  exact anchorOf_after w.probe (step :: post) (s.after pre) known

end Scene
end ProbeRecorder
