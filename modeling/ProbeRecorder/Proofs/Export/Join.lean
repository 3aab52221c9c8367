import Mathlib.Data.List.Forall2
import ProbeRecorder.Proofs.Export.Grouping
import ProbeRecorder.Proofs.Program.Sources

/-!
# `ProbeRecorder.Proofs.Export.Join` — calls joined from the log of a run

`correlate` sees the events of a log and a table of anchors, and nothing else. With the log of a run it finds
every call that was opened, and all completions of it; whether it takes other events for outcomes depends on
what else stands under the anchor and the id of the call.

## Contents
- **Starts.** `StartedBy`: every call comes from the anchor of an opening (`correlate_started`).
- **Completeness.** `Joined`, and `correlate_joined` for whole runs.
- **Soundness.** `Stray` events, and `correlate_sourced` for whole runs; a pending call with an outcome
  (`pending_call_has_outcome`).
-/

namespace ProbeRecorder

/-! ## Starts -/

/-- The traced events that stand where the outcomes of a call are looked for. -/
def Call.candidates (c : Call) (events : List (Reply × Event)) : List (Reply × Event) :=
  events.filter fun x => Call.matchesEvent c.anchor c.correlation x.2

/-- **A call is joined** from the event `a` with the events before and after it. -/
structure Call.JoinedAt (table : AnchorTable) (before : List (Reply × Event)) (a : Event)
    (after : List (Reply × Event)) (o : Opening) (c : Call) : Prop where
  probe : c.probe = o.probe
  anchor : c.anchor = table.anchorOf o.probe
  object : c.object = a.value
  correlation : c.correlation = o.call.correlation
  started : c.started = a.timestamp
  outcomes : c.outcomes = (c.candidates (before ++ after)).map fun x => Call.outcomeOf x.2

/-- **The call of an opening**: it is joined from the anchor that was written when the call was opened. -/
def Call.StartedBy (table : AnchorTable) (events : List (Reply × Event)) (o : Opening) (c : Call) : Prop :=
  ∃ before a after, events = before ++ (.opened o, a) :: after ∧ c.JoinedAt table before a after o

/-- The openings that the tags of some events name. -/
def openingsOf (events : List (Reply × Event)) : List Opening := events.filterMap fun x => x.1.opening?

theorem correlateFrom_started (table : AnchorTable) (after : List (Reply × Event)) :
    ∀ before : List (Reply × Event), (∀ x ∈ after, Scene.Tagged x.1 x.2) →
    List.Forall₂ (Call.StartedBy table (before ++ after)) (openingsOf after)
      (correlateFrom table (before.map Prod.snd) (after.map Prod.snd)) := by
  induction after with
  | nil => exact fun _ _ => .nil
  | cons x rest ih =>
      intro before tagged
      obtain ⟨reply, e⟩ := x
      have hx : Scene.Tagged reply e := tagged _ List.mem_cons_self
      have hrest := ih (before ++ [(reply, e)]) fun y hy => tagged y (List.mem_cons_of_mem _ hy)
      rw [List.append_assoc, List.singleton_append, List.map_append] at hrest
      unfold openingsOf
      rw [List.map_cons, List.filterMap_cons]
      unfold correlateFrom Call.ofEvent?
      -- Only an event that was written for an opening has a correlation id, and starts a call.
      cases reply with
      | silent =>
          rw [hx.correlation]
          exact hrest
      | polled k answer =>
          rw [hx.correlation]
          exact hrest
      | opened o =>
          rw [hx.correlation]
          refine List.Forall₂.cons ⟨before, e, rest, rfl, ?_⟩ hrest
          have hprobe := hx.probe o rfl
          refine ⟨hprobe, by rw [← hprobe], rfl, rfl, rfl, ?_⟩
          show ((before.map Prod.snd ++ rest.map Prod.snd).filter _).map _ = _
          unfold Call.candidates
          rw [← List.map_append, List.filter_map, List.map_map]
          rfl

/-- **Every call comes from an opening**, and every anchor in the log leads to a call. -/
theorem correlate_started (table : AnchorTable) (s : Scene) (steps : List Step) :
    List.Forall₂ (Call.StartedBy table (traced (s.history steps))) (openingsOf (traced (s.history steps)))
      (correlate table (eventsOf (logOf (s.history steps)))) := by
  rw [← traced_events, correlate_eq_correlateFrom]
  exact correlateFrom_started table _ [] fun x hx => Scene.tagged_of_traced steps s hx

/-! ## Completeness -/

/-- **A call with all its outcomes**: apart from stray events, these are the completions that the wrapper of
    its opening wrote, in order. -/
structure Joined (codec : Codec) (h : List Turn) (o : Opening) (c : Call) : Prop where
  probe : c.probe = o.probe
  anchor : c.anchor = o.call.anchor
  correlation : c.correlation = o.call.correlation
  /-- The outcomes are those of the candidates around the anchor; the completions among these are the ones of
      the wrapper. -/
  outcomes : ∃ before a after, traced h = before ++ (.opened o, a) :: after ∧
    c.outcomes = (c.candidates (before ++ after)).map (fun x => Call.outcomeOf x.2) ∧
    (c.candidates (before ++ after)).filter (fun x => x.1.isPoll) =
      (traced h).filter fun x => (x.1.answer? o.wrapper).isSome
  completed : ((traced h).filter fun x => (x.1.answer? o.wrapper).isSome).map Prod.snd =
    o.call.completions codec (o.kind.reported (answersOf h o.wrapper))

/-- With a sink that takes everything, the openings of a run are those that its events name. -/
theorem openingsOf_traced : ∀ (steps : List Step) (s : Scene), s.recorder.discards = false →
    Accepting steps → openingsOf (traced (s.history steps)) = openings (s.history steps) := by
  intro steps
  induction steps with
  | nil => exact fun _ _ _ => rfl
  | cons step rest ih =>
      intro s keeps accepting
      obtain ⟨hext, heff⟩ := s.turn_effect step
      have hrest := ih (s.act step).2 (hext.discards.trans keeps) fun x hx =>
        accepting x (List.mem_cons_of_mem _ hx)
      have hhead : openingsOf ((eventsOf (s.turn step).written).map fun e => ((s.turn step).reply, e)) =
          (s.turn step).reply.opening?.toList := by
        unfold openingsOf
        rw [List.filterMap_map]
        cases ho : (s.turn step).reply.opening? with
        | none => exact List.filterMap_eq_nil_iff.mpr fun _ _ => ho
        | some o =>
            -- The sink takes the anchor, and a step that opens a call writes nothing else.
            have hone : ∃ e, (s.turn step).written = [.event e] := by
              generalize (s.turn step).written = written, (s.turn step).reply = reply at heff ho
              cases heff with
              | opened w object _ _ _ _ =>
                  exact ⟨_, Recorder.kept_of_accepting (r := s.facing step) _ keeps
                    (accepting step List.mem_cons_self .anchor)⟩
              | aside _ _ _ => cases ho
              | dropped _ _ _ => cases ho
              | passed _ _ _ _ _ => cases ho
              | polled _ _ _ _ _ _ _ _ _ => cases ho
              | woven _ _ _ _ _ _ _ _ => cases ho
            obtain ⟨e, he⟩ := hone
            rw [he]
            show List.filterMap (fun _ => (s.turn step).reply.opening?) [e] = [o]
            rw [ho]
            rfl
      rw [Scene.history_cons, traced_cons, openings_cons, ← hrest, ← hhead]
      exact List.filterMap_append

/-- Anchors are the events that name openings. -/
theorem anchors_of_tagged (events : List (Reply × Event)) (tagged : ∀ x ∈ events, Scene.Tagged x.1 x.2) :
    ((events.map Prod.snd).filter Event.isAnchor).map Event.correlation? =
      (openingsOf events).map fun o => some o.call.correlation := by
  induction events with
  | nil => rfl
  | cons x rest ih =>
      have hx := tagged x List.mem_cons_self
      have hrest := ih fun y hy => tagged y (List.mem_cons_of_mem _ hy)
      unfold openingsOf at hrest ⊢
      rw [List.map_cons, List.filter_cons, List.filterMap_cons, hx.isAnchor]
      cases ho : x.1.opening? with
      | none => exact hrest
      | some o =>
          rw [Option.isSome_some, if_pos rfl, List.map_cons, hrest, hx.correlation, ho]
          rfl

/-- Two completions stand in the same place only if they belong to the same opening. -/
theorem candidate_iff {r : Recorder} {steps : List Step}
    (distinct : ((openings (r.scene.history steps)).map fun o => o.call.correlation).Nodup)
    {o : Opening} (ho : o ∈ openings (r.scene.history steps)) {c : Call} (hanchor : c.anchor = o.call.anchor)
    (hcorrelation : c.correlation = o.call.correlation) {x : Reply × Event}
    (hx : x ∈ traced (r.scene.history steps)) :
    (x.1.isPoll && Call.matchesEvent c.anchor c.correlation x.2) = (x.1.answer? o.wrapper).isSome := by
  obtain ⟨reply, e⟩ := x
  cases reply with
  | silent => rfl
  | opened _ => rfl
  | polled k answer =>
      obtain ⟨o', ho', hk, stamp, outcome, rfl⟩ := Scene.completion_of_traced steps hx rfl
      unfold Call.matchesEvent
      rw [hanchor, hcorrelation]
      show (true && (decide (o'.call.anchor = o.call.anchor) &&
        decide (o'.call.correlation = o.call.correlation))) =
          (if k = o.wrapper then some answer else none).isSome
      -- Calls of different wrappers have different ids, even if they share an anchor probe.
      by_cases hwrapper : k = o.wrapper
      · rw [Scene.opening_eq_of_wrapper ho' ho (hk.trans hwrapper), if_pos hwrapper, decide_eq_true rfl,
          decide_eq_true rfl]
        rfl
      · have hne : o'.call.correlation ≠ o.call.correlation := by
          intro heq
          have := List.inj_on_of_nodup_map distinct ho' ho heq
          exact hwrapper (by rw [← hk, this])
        rw [if_neg hwrapper, decide_eq_false hne, Bool.and_false]
        rfl

/-- What stands around an anchor was written in the run. -/
theorem mem_traced_of_around {events before after : List (Reply × Event)} {anchor x : Reply × Event}
    (hsplit : events = before ++ anchor :: after) (hx : x ∈ before ++ after) : x ∈ events := by
  rw [hsplit]
  rcases List.mem_append.mp hx with hx | hx
  · exact List.mem_append_left _ hx
  · exact List.mem_append_right _ (List.mem_cons_of_mem _ hx)

/-- The call that an opening starts has all its outcomes. -/
theorem joined_of_started {r : Recorder} {steps : List Step} (hclock : r.clock = .initial)
    (keeps : r.discards = false) (accepting : Accepting steps) (remains : ClockRemains steps)
    {table : AnchorTable} {o : Opening} {c : Call} (ho : o ∈ openings (r.scene.history steps))
    (htable : table.anchorOf o.probe = o.call.anchor)
    (started : c.StartedBy table (traced (r.scene.history steps)) o) :
    Joined r.codec (r.scene.history steps) o c := by
  have distinct := Scene.openings_nodup r.scene steps hclock remains
  obtain ⟨before, a, after, hsplit, joined⟩ := started
  have hanchor := joined.anchor.trans htable
  refine ⟨joined.probe, hanchor, joined.correlation, ⟨before, a, after, hsplit, joined.outcomes, ?_⟩,
    Scene.traced_of_opening r steps hclock keeps accepting remains ho⟩
  have hsame : ∀ x ∈ before ++ after,
      (x.1.isPoll && Call.matchesEvent c.anchor c.correlation x.2) = (x.1.answer? o.wrapper).isSome := by
    intro x hx
    exact candidate_iff distinct ho hanchor joined.correlation (mem_traced_of_around hsplit hx)
  -- The anchor itself is no completion, so it makes no difference that it is left out.
  unfold Call.candidates
  rw [List.filter_filter, List.filter_congr hsame, hsplit, List.filter_append, List.filter_append]
  rfl

/-- **What the join gives for a run**: one call for each anchor, in the order of the log, with all
    completions of the producer that the anchor stands for. -/
structure JoinedAll (codec : Codec) (h : List Turn) (events : List Event) (calls : List Call) : Prop where
  anchors : (events.filter Event.isAnchor).map Event.correlation? = calls.map fun c => some c.correlation
  calls : List.Forall₂ (Joined codec h) (openings h) calls

/-- **The join is complete.** The table is the one that the log itself gives; registrations may come at any
    time, as long as no call was opened at one of the new probes before. -/
theorem correlate_joined {o : RecorderOptions} {r : Recorder} {steps : List Step}
    (built : Recorder.build o .empty = .ok r) (keeps : r.discards = false) (accepting : Accepting steps)
    (remains : ClockRemains steps) (first : Scene.RegisteredFirst r.scene steps) :
    JoinedAll r.codec (r.scene.history steps) (eventsOf (r.scene.after steps).recorder.sink.log)
      (correlate (.ofWeaves (weavesOf (r.scene.after steps).recorder.sink.log))
        (eventsOf (r.scene.after steps).recorder.sink.log)) := by
  obtain ⟨policy, rfl⟩ := Recorder.eq_withPolicy_of_build built
  generalize hr : Recorder.withPolicy o policy .empty = r at *
  have hclock : r.clock = .initial := by rw [← hr]; rfl
  have hlog : (r.scene.after steps).recorder.sink.log = logOf (r.scene.history steps) := by
    rw [(Scene.after_extends steps r.scene).log, ← hr]
    rfl
  have htable := Scene.anchors_eq_ofWeaves steps r.scene keeps accepting (by rw [← hr]; rfl)
  rw [← htable, hlog]
  have started := correlate_started (r.scene.after steps).recorder.anchors r.scene steps
  rw [openingsOf_traced steps r.scene keeps accepting] at started
  have hcalls : List.Forall₂ (Joined r.codec (r.scene.history steps)) (openings (r.scene.history steps))
      (correlate (r.scene.after steps).recorder.anchors (eventsOf (logOf (r.scene.history steps)))) := by
    have hmem := (List.forall₂_and_left _ _).mpr ⟨fun o ho => ho, started⟩
    apply hmem.imp
    intro o c hoc
    exact joined_of_started hclock keeps accepting remains hoc.1
      (Scene.anchorOf_opening accepting first hoc.1) hoc.2
  refine ⟨?_, hcalls⟩
  rw [← traced_events, anchors_of_tagged _ fun x hx => Scene.tagged_of_traced steps r.scene hx,
    openingsOf_traced steps r.scene keeps accepting]
  rw [traced_events]
  exact List.forall₂_eq_eq_eq ▸ (List.forall₂_map_left_iff.mpr (List.forall₂_map_right_iff.mpr
    (hcalls.imp fun o c joined => by rw [joined.correlation])))

/-- A class of two probes; a future at the second one gives its outcome after another event there. -/
def joinedSteps : List Step := acceptedSteps
  [(0, .register ⟨1, "Service",
      [⟨1, .methodEntry, .object, 0, 0, ""⟩, ⟨2, .methodNormalExit, .object, 0, 0, ""⟩]⟩),
   (7, .wrap ⟨2, "Reply", .single, [.ready (.value (.done (.value .null)))], .pending, 0⟩),
   (7, .scalar 2 (.long 8)), (7, .poll 0)]

theorem correlate_joined_future :
    ∃ r, Recorder.build .capturing .empty = .ok r ∧
      openings (r.scene.history joinedSteps) = [⟨0, 2, .single, ⟨7, 1⟩⟩] ∧
      JoinedAll r.codec (r.scene.history joinedSteps)
        (eventsOf (r.scene.after joinedSteps).recorder.sink.log)
        (correlate (.ofWeaves (weavesOf (r.scene.after joinedSteps).recorder.sink.log))
          (eventsOf (r.scene.after joinedSteps).recorder.sink.log)) := by
  refine ⟨_, rfl, by decide, correlate_joined (o := .capturing) rfl rfl (accepting_acceptedSteps _)
    ⟨by decide, by decide⟩ ?_⟩
  -- The only registration is the first step, before any call is opened.
  intro pre step post w hsplit _ _ later hlater b hb
  have htail : later ∈ joinedSteps.tail := by
    rw [hsplit]
    cases pre with
    | nil => exact hlater
    | cons _ rest => exact List.mem_append_right _ (List.mem_cons_of_mem _ hlater)
  simp only [joinedSteps, acceptedSteps, List.map_cons, List.map_nil, List.tail_cons, List.mem_cons,
    List.not_mem_nil, or_false] at htail
  rcases htail with rfl | rfl | rfl <;> cases hb

/-! ## Soundness -/

/-- **A stray event** is no completion, and yet stands where the outcomes of a call are looked for. -/
def Stray (c : Call) (x : Reply × Event) : Prop :=
  x.1.isPoll = false ∧ Call.matchesEvent c.anchor c.correlation x.2 = true

/-- **What the outcomes of a call stem from.** -/
structure Sourced (codec : Codec) (h : List Turn) (c : Call) (before : List (Reply × Event))
    (after : List (Reply × Event)) : Prop where
  outcomes : c.outcomes = (c.candidates (before ++ after)).map fun x => Call.outcomeOf x.2
  /-- A candidate that is a completion was written under the anchor and the id of the call. -/
  completions : ∀ x ∈ c.candidates (before ++ after), x.1.isPoll = true →
    ∃ source ∈ openings h, source.call = ⟨c.correlation, c.anchor⟩ ∧
      ∃ stamp outcome, x.2 = source.call.completion codec stamp outcome
  /-- All outcomes are completions exactly if there are no stray events. -/
  sound : (∀ x ∈ c.candidates (before ++ after), x.1.isPoll = true) ↔ ∀ x ∈ before ++ after, ¬ Stray c x
  /-- A call without completions has no outcomes exactly if there are no stray events. -/
  pending : (∀ x ∈ c.candidates (before ++ after), x.1.isPoll = false) →
    (c.outcomes = [] ↔ ∀ x ∈ before ++ after, ¬ Stray c x)

/-- A completion that stands where the outcomes of a call are looked for was written for that call. -/
theorem source_of_candidate {r : Recorder} {steps : List Step} {c : Call} {x : Reply × Event}
    (hx : x ∈ traced (r.scene.history steps)) (hpoll : x.1.isPoll = true)
    (hmatch : Call.matchesEvent c.anchor c.correlation x.2 = true) :
    ∃ source ∈ openings (r.scene.history steps), source.call = ⟨c.correlation, c.anchor⟩ ∧
      ∃ stamp outcome, x.2 = source.call.completion r.codec stamp outcome := by
  obtain ⟨reply, e⟩ := x
  cases reply with
  | silent => cases hpoll
  | opened _ => cases hpoll
  | polled k answer =>
      obtain ⟨source, hsource, _, stamp, outcome, rfl⟩ := Scene.completion_of_traced steps hx rfl
      refine ⟨source, hsource, ?_, stamp, outcome, rfl⟩
      unfold Call.matchesEvent at hmatch
      rw [Bool.and_eq_true] at hmatch
      have hanchor : source.call.anchor = c.anchor := of_decide_eq_true hmatch.1
      have hcorrelation : source.call.correlation = c.correlation := of_decide_eq_true hmatch.2
      rw [← hanchor, ← hcorrelation]

theorem sourced_of_joinedAt {r : Recorder} {steps : List Step} {table : AnchorTable}
    {before after : List (Reply × Event)} {a : Event} {o : Opening} {c : Call}
    (hsplit : traced (r.scene.history steps) = before ++ (.opened o, a) :: after)
    (joined : c.JoinedAt table before a after o) :
    Sourced r.codec (r.scene.history steps) c before after := by
  have candidate : ∀ x, x ∈ c.candidates (before ++ after) ↔
      x ∈ before ++ after ∧ Call.matchesEvent c.anchor c.correlation x.2 = true := fun x => List.mem_filter
  refine ⟨joined.outcomes, ?_, ?_, ?_⟩
  · intro x hx hpoll
    obtain ⟨hmem, hmatch⟩ := (candidate x).mp hx
    exact source_of_candidate (mem_traced_of_around hsplit hmem) hpoll hmatch
  · constructor
    · intro hall x hx stray
      have := hall x ((candidate x).mpr ⟨hx, stray.2⟩)
      rw [stray.1] at this
      cases this
    · intro hnone x hx
      obtain ⟨hmem, hmatch⟩ := (candidate x).mp hx
      cases hpoll : x.1.isPoll with
      | true => rfl
      | false => exact absurd ⟨hpoll, hmatch⟩ (hnone x hmem)
  · intro hpending
    rw [joined.outcomes, List.map_eq_nil_iff]
    constructor
    · intro hnil x hx stray
      have := (candidate x).mpr ⟨hx, stray.2⟩
      rw [hnil] at this
      cases this
    · intro hnone
      apply List.eq_nil_iff_forall_not_mem.mpr
      intro x hx
      exact hnone x ((candidate x).mp hx).1 ⟨hpending x hx, ((candidate x).mp hx).2⟩

theorem exists_started {table : AnchorTable} {events : List (Reply × Event)} {os : List Opening}
    {calls : List Call} (h : List.Forall₂ (Call.StartedBy table events) os calls) {c : Call}
    (hc : c ∈ calls) : ∃ o, c.StartedBy table events o := by
  induction h with
  | nil => cases hc
  | cons head _ ih =>
      rcases List.mem_cons.mp hc with rfl | hc
      · exact ⟨_, head⟩
      · exact ih hc

/-- **How far the join is sound.** Whatever a run does, whatever the sink refuses, and whichever table is
    used: the outcomes of a call are completions written under its id, and stray events. -/
theorem correlate_sourced {o : RecorderOptions} {r : Recorder} (built : Recorder.build o .empty = .ok r)
    (steps : List Step) (table : AnchorTable) {c : Call}
    (hc : c ∈ correlate table (eventsOf (r.scene.after steps).recorder.sink.log)) :
    ∃ before opening a after,
      traced (r.scene.history steps) = before ++ (.opened opening, a) :: after ∧
      c.JoinedAt table before a after opening ∧ Sourced r.codec (r.scene.history steps) c before after := by
  obtain ⟨policy, rfl⟩ := Recorder.eq_withPolicy_of_build built
  rw [(Scene.after_extends steps _).log] at hc
  have started := correlate_started table (Recorder.withPolicy o policy .empty).scene steps
  obtain ⟨opening, before, a, after, hsplit, joined⟩ := exists_started started hc
  exact ⟨before, opening, a, after, hsplit, joined, sourced_of_joinedAt hsplit joined⟩

/-- A future that is never polled, and then a number that equals the id of its call. -/
def straySteps : List Step := acceptedSteps
  [(0, .mark [1]), (5, .wrap ⟨1, "Reply", .single, [], .pending, 0⟩), (6, .scalar 1 (.long 5))]

/-- The pending call of `straySteps`, whose only outcome is the number. -/
def strayCall : Call := ⟨1, 1, 1, 5, 0, [.null]⟩

theorem correlate_sourced_stray :
    ∃ r, Recorder.build .capturing .empty = .ok r ∧
      ∃ before opening a after,
        traced (r.scene.history straySteps) = before ++ (.opened opening, a) :: after ∧
        strayCall.JoinedAt .empty before a after opening ∧
        Sourced r.codec (r.scene.history straySteps) strayCall before after :=
  ⟨_, rfl, correlate_sourced (o := .capturing) rfl straySteps .empty
    (show strayCall ∈ [strayCall] from List.mem_cons_self)⟩

/-- **The join is not sound**: a call that is still pending has an outcome, though no completion was ever
    written. -/
theorem pending_call_has_outcome :
    ∃ r, Recorder.build .capturing .empty = .ok r ∧
      (∀ x ∈ traced (r.scene.history straySteps), x.1.isPoll = false) ∧
      ∃ c ∈ correlate .empty (eventsOf (r.scene.after straySteps).recorder.sink.log), c.outcomes ≠ [] :=
  ⟨_, rfl, by decide, strayCall, show strayCall ∈ [strayCall] from List.mem_cons_self, List.cons_ne_nil _ _⟩

end ProbeRecorder
