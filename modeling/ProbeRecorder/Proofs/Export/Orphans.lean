import ProbeRecorder.Proofs.Export.Join

/-!
# `ProbeRecorder.Proofs.Export.Orphans` — completions whose anchor is missing

A call counts as open even when the sink refuses its anchor, and its outcomes are written all the same. The
sink may take them: then the log has completions that belong to no call.

## Contents
- **Calls.** A log gives a call for every id of an anchor, and for no other id (`exists_call_iff`).
- **Anchors.** What a step that opens a call writes (`Scene.written_of_opened`).
- **Orphans.** `Attributed`, of every completion in a log (`completion_attributed`); a log of one completion
  and nothing else (`completion_without_anchor`).
-/

namespace ProbeRecorder

/-! ## Calls -/

theorem exists_correlateFrom_iff (table : AnchorTable) (id : Int64) (after : List Event) :
    ∀ before : List Event, (∃ c ∈ correlateFrom table before after, c.correlation = id) ↔
      ∃ a ∈ after, a.correlation? = some id := by
  induction after with
  | nil => simp [correlateFrom]
  | cons e rest ih =>
      intro before
      have head : (∃ c ∈ Call.ofEvent? table before e rest, c.correlation = id) ↔
          e.correlation? = some id := by
        unfold Call.ofEvent?
        cases e.correlation? <;> simp
      unfold correlateFrom
      simp only [List.mem_append, Option.mem_toList, or_and_right, exists_or, List.mem_cons,
        exists_eq_left, ih]
      rw [← head]
      rfl

/-- **A log gives a call** for every id that stands in one of its anchors, whatever the table is. -/
theorem exists_call_iff (table : AnchorTable) (id : Int64) (events : List Event) :
    (∃ c ∈ correlate table events, c.correlation = id) ↔ ∃ a ∈ events, a.correlation? = some id := by
  rw [correlate_eq_correlateFrom]
  exact exists_correlateFrom_iff table id events []

/-! ## Anchors -/

theorem Reply.eq_opened {reply : Reply} {o : Opening} (h : reply.opening? = some o) :
    reply = .opened o := by
  cases reply with
  | silent => cases h
  | opened o' => rw [Option.some.inj h]
  | polled k answer => cases h

namespace Scene

variable {s : Scene} {step : Step}

/-- A step that opens a call writes the anchor of the call, if the sink takes it. -/
theorem written_of_opened {o : Opening} (reply : (s.turn step).reply = .opened o) :
    ∃ object, (s.turn step).written = (s.facing step).kept .anchor
      (.event (.anchor step.moment.stamp o.probe object o.call.correlation)) := by
  have effect := (s.turn_effect step).2
  rw [reply] at effect
  generalize (s.turn step).written = written at effect
  cases effect with
  | opened w object _ _ _ _ => exact ⟨object, rfl⟩

/-- A step that writes a completion has a sink to write to. -/
theorem keeps_of_polled {k : Nat} {answer : Polled} {e : Event}
    (polled : (s.turn step).reply = .polled k answer) (written : e ∈ eventsOf (s.turn step).written) :
    s.recorder.discards = false := by
  have effect := (s.turn_effect step).2
  replace written := eventsOf_mem written
  rw [polled] at effect
  generalize (s.turn step).written = es at effect written
  cases effect with
  | polled _ p _ _ _ _ _ _ _ =>
      unfold Recorder.reported at written
      split at written
      · unfold Recorder.kept at written
        split at written
        · cases written
        · exact (Bool.not_eq_true _).mp ‹_›
      · cases written

end Scene

/-! ## Orphans -/

/-- **A completion and its call**, in the log of a run; `before` is the part of the run before the completion
    was written. Whether the log has the anchor of the call depends on what the sink said when the call was
    opened, and on nothing else: a refused anchor leaves an orphan. -/
structure Attributed (r : Recorder) (steps before : List Step) (e : Event) (o : Opening)
    (refusal : Option RecorderError) : Prop where
  completion : ∃ stamp outcome, e = o.call.completion r.codec stamp outcome
  anchored : refusal = none → ∃ a ∈ eventsOf (r.scene.after before).recorder.sink.log,
    a.isAnchor = true ∧ a.probe = o.probe ∧ a.correlation? = some o.call.correlation
  exported : refusal = none → ∀ table,
    ∃ c ∈ correlate table (eventsOf (r.scene.after steps).recorder.sink.log),
      c.correlation = o.call.correlation
  orphaned : refusal ≠ none → ClockRemains steps → ∀ table,
    ∀ c ∈ correlate table (eventsOf (r.scene.after steps).recorder.sink.log),
      c.correlation ≠ o.call.correlation

/-- The log of a run is what its steps wrote. -/
theorem log_of_build {o : RecorderOptions} {r : Recorder} (built : Recorder.build o .empty = .ok r)
    (steps : List Step) : (r.scene.after steps).recorder.sink.log = logOf (r.scene.history steps) := by
  obtain ⟨policy, rfl⟩ := Recorder.eq_withPolicy_of_build built
  exact (Scene.after_extends steps _).log

/-- An anchor that the sink took is in the log from then on. -/
theorem anchor_mem_log {s : Scene} {step : Step} {o : Opening} (reply : (s.turn step).reply = .opened o)
    (keeps : s.recorder.discards = false) (accepted : step.refusal .anchor = none) (later : List Step) :
    ∃ a ∈ eventsOf (logOf (s.history (step :: later))),
      a.isAnchor = true ∧ a.probe = o.probe ∧ a.correlation? = some o.call.correlation := by
  obtain ⟨object, hwritten⟩ := Scene.written_of_opened reply
  rw [Recorder.kept_of_accepting (r := s.facing step) _ keeps accepted] at hwritten
  refine ⟨.anchor step.moment.stamp o.probe object o.call.correlation, ?_, rfl, rfl, ?_⟩
  · rw [Scene.history_cons, logOf_cons, hwritten]
    exact List.mem_cons_self
  · exact Event.correlation?_anchor _ _ _ _

/-- An id whose anchor the sink refused stands in no anchor, before or after. -/
theorem no_anchor_of_refused {start s : Scene} {step : Step} {o : Opening} (earlier later : List Step)
    (reply : (s.turn step).reply = .opened o) (refused : step.refusal .anchor ≠ none)
    (distinct : ((openings (start.history earlier ++ s.history (step :: later))).map
      fun o => o.call.correlation).Nodup) :
    ∀ a ∈ eventsOf (logOf (start.history earlier ++ s.history (step :: later))),
      a.correlation? ≠ some o.call.correlation := by
  have unique := Scene.anchor_unique start s earlier later reply distinct
  obtain ⟨object, hwritten⟩ := Scene.written_of_opened reply
  have hnothing : (s.turn step).written = [] := by
    rw [hwritten]
    unfold Recorder.kept
    split
    · rfl
    · exact if_pos (Option.isSome_iff_ne_none.mpr refused)
  rw [hnothing] at unique
  intro a ha hid
  exact List.filter_eq_nil_iff.mp unique a ha (decide_eq_true hid)

/-- **Completions and anchors.** Whatever the sink refuses: a completion that it takes belongs to a call that
    was opened before, and the log has the anchor of that call exactly if the sink took it then. -/
theorem completion_attributed {options : RecorderOptions} {r : Recorder}
    (built : Recorder.build options .empty = .ok r) {before after : List Step} {poll : Step} {k : Nat}
    {answer : Polled} {e : Event} (polled : ((r.scene.after before).turn poll).reply = .polled k answer)
    (written : e ∈ eventsOf ((r.scene.after before).turn poll).written) :
    ∃ earlier step later o, before = earlier ++ step :: later ∧
      ((r.scene.after earlier).turn step).reply = .opened o ∧ o.wrapper = k ∧
      Attributed r (before ++ poll :: after) before e o (step.refusal .anchor) := by
  have keeps := Scene.keeps_of_polled polled written
  obtain ⟨o, ho, hwrapper, completion⟩ := Scene.completion_of_polled polled written
  obtain ⟨turn, hturn, hreply⟩ := List.mem_filterMap.mp ho
  obtain ⟨earlier, step, later, rfl, rfl⟩ := Scene.exists_step_of_mem_history before r.scene hturn
  have opened := Reply.eq_opened hreply
  have keeps' : (r.scene.after earlier).recorder.discards = false := by
    rw [(Scene.after_extends _ r.scene).discards] at keeps ⊢
    exact keeps
  refine ⟨earlier, step, later, o, rfl, opened, hwrapper, completion, ?_, ?_, ?_⟩
  · intro accepted
    obtain ⟨a, ha, anchor⟩ := anchor_mem_log opened keeps' accepted later
    refine ⟨a, ?_, anchor⟩
    rw [log_of_build built, Scene.history_append, logOf_append, eventsOf_append]
    exact List.mem_append_right _ ha
  · intro accepted table
    obtain ⟨a, ha, _, _, hid⟩ := anchor_mem_log opened keeps' accepted (later ++ poll :: after)
    refine (exists_call_iff table _ _).mpr ⟨a, ?_, hid⟩
    rw [List.append_assoc, log_of_build built, Scene.history_append, logOf_append, eventsOf_append]
    exact List.mem_append_right _ ha
  · intro refused remains table c hc hid
    have hclock : r.clock = .initial := by
      obtain ⟨policy, rfl⟩ := Recorder.eq_withPolicy_of_build built
      rfl
    have distinct := Scene.openings_nodup r.scene _ hclock remains
    obtain ⟨a, ha, hid⟩ := (exists_call_iff table _ _).mp ⟨c, hc, hid⟩
    rw [List.append_assoc] at distinct ha
    rw [log_of_build built, Scene.history_append] at ha
    rw [Scene.history_append] at distinct
    exact no_anchor_of_refused earlier _ opened refused distinct a ha hid

/-- A future whose anchor the sink refuses, and whose outcome it takes. -/
def orphanSteps : List Step :=
  [⟨0, ⟨.empty, ⟨0, "main"⟩, 5⟩, fun _ => none, .mark [1]⟩,
   ⟨0, ⟨.empty, ⟨0, "main"⟩, 5⟩, fun call => if call = .anchor then some ⟨.sink, "Event queue full"⟩ else none,
    .wrap ⟨1, "Reply", .single, [.ready (.value (.done (.value .null)))], .pending, 0⟩⟩]

/-- The poll that gives the outcome. -/
def orphanPoll : Step := ⟨0, ⟨.empty, ⟨0, "main"⟩, 5⟩, fun _ => none, .poll 0⟩

theorem completion_attributed_orphan :
    ∃ r, Recorder.build .capturing .empty = .ok r ∧
      ∃ e ∈ eventsOf ((r.scene.after orphanSteps).turn orphanPoll).written,
      ∃ earlier step later o, orphanSteps = earlier ++ step :: later ∧
        ((r.scene.after earlier).turn step).reply = .opened o ∧ o.wrapper = 0 ∧
        Attributed r (orphanSteps ++ [orphanPoll]) orphanSteps e o (step.refusal .anchor) :=
  ⟨_, Recorder.build_capturing .empty, _, List.mem_cons_self,
    completion_attributed (Recorder.build_capturing .empty) rfl List.mem_cons_self⟩

/-- **A completion without an anchor**: the log is one completion, under an id that stands in no anchor, and
    whatever the table of anchors is, no call is made of it. -/
theorem completion_without_anchor :
    ∃ r, Recorder.build .capturing .empty = .ok r ∧
      ((r.scene.after orphanSteps).turn orphanPoll).reply.isPoll = true ∧
      ∃ e, eventsOf (r.scene.after (orphanSteps ++ [orphanPoll])).recorder.sink.log = [e] ∧
        e ∈ eventsOf ((r.scene.after orphanSteps).turn orphanPoll).written ∧ e.isAnchor = false ∧
        ∀ table, correlate table [e] = [] :=
  ⟨_, rfl, rfl, _, rfl, List.mem_cons_self, rfl, fun _ => rfl⟩

end ProbeRecorder
