import ProbeRecorder.Proofs.Correlation
import ProbeRecorder.Proofs.Program.History

/-!
# `ProbeRecorder.Proofs.Program.Completions` — what producers leave in the log

Polls of many wrappers may come in any order, between all other calls. What the polls of one wrapper write
depends on its own answers only: its outcomes up to the point where its call is closed, each once and in
order.

## Contents
- **Outcomes.** `ProducerKind.reported`, one answer at a time.
- **Events.** What kind of event a step can write (`Effect.event_cases`).
- **Wrappers.** `writtenFor_of_call`; closed and dropped wrappers write nothing.
- **Ids.** `ClockRemains`; ids of opened calls ascend (`openings_ascend`).
- **Producers.** What handing over a producer leaves in the log: `run_producersRecorded`.
-/

namespace ProbeRecorder

/-! ## Outcomes -/

/-- **One answer at a time**: its outcome is reported, and the others only if it closes nothing. -/
theorem ProducerKind.reported_cons (kind : ProducerKind) (stamp : Stamp) (answer : Polled)
    (rest : List (Stamp × Polled)) :
    kind.reported ((stamp, answer) :: rest) =
      (answer.outcome?.map fun outcome => (stamp, outcome)).toList ++
        if kind.closes answer then [] else kind.reported rest := by
  cases kind with
  | single =>
      cases answer with
      | ready outcome => rfl
      | pending => rfl
      | ended => rfl
      | finished => rfl
  | many =>
      unfold reported
      rw [List.takeWhile_cons]
      cases answer with
      | ready outcome => rfl
      | pending => rfl
      | ended => rfl
      | finished => rfl

namespace Scene

variable {s t : Scene} {es : List Entry} {step : Step} {reply : Reply}

/-! ## Events -/

/-- What a step that came to `reply` may have written. -/
def Fitting (codec : Codec) (s : Scene) : Reply → Event → Prop
  | .silent, e => ∃ stamp probe value payload, e = .ordinary stamp probe value payload
  | .opened o, e => ∃ stamp object, e = .anchor stamp o.probe object o.call.correlation
  | .polled k answer, e => ∃ p call stamp outcome, s.wrapper? k = some p ∧ p.call = some call ∧
      answer = .ready outcome ∧ e = call.completion codec stamp outcome

theorem eventsOf_mem {e : Event} {log : List Entry} (h : e ∈ eventsOf log) : .event e ∈ log := by
  unfold eventsOf at h
  obtain ⟨entry, hm, he⟩ := List.mem_filterMap.mp h
  cases entry with
  | event f =>
      injection he with he
      rw [← he]
      exact hm
  | weave c probes => cases he

/-- **Every event fits what its step came to.** -/
theorem Effect.event_fits (h : s.Effect step reply es t) {e : Event} (he : e ∈ eventsOf es) :
    Fitting s.recorder.codec s reply e := by
  have hm := eventsOf_mem he
  have ordinary : ∀ fs : List Entry, Recorder.AtMostOrdinary fs → Entry.event e ∈ fs →
      ∃ stamp probe value payload, e = .ordinary stamp probe value payload := by
    intro fs hf hmem
    obtain ⟨stamp, probe, value, payload, heq⟩ := hf _ hmem
    injection heq with heq
    exact ⟨stamp, probe, value, payload, heq⟩
  cases h with
  | aside _ _ ho => exact ordinary _ ho hm
  | dropped k _ _ => cases hm
  | passed p _ _ _ ho => exact ordinary _ ho hm
  | opened w object _ _ _ _ =>
      have heq := Recorder.mem_kept hm
      injection heq with heq
      exact ⟨_, _, heq⟩
  | polled k p q answer _ hp _ _ _ =>
      cases hcall : p.call with
      | none =>
          rw [hcall] at hm
          cases hm
      | some call =>
          rw [hcall] at hm
          cases answer with
          | ready outcome =>
              have heq := Recorder.mem_kept hm
              injection heq with heq
              exact ⟨p, call, _, outcome, hp, hcall, rfl, heq⟩
          | pending => cases hm
          | ended => cases hm
          | finished => cases hm
  | woven b _ _ _ _ _ _ _ =>
      have heq := Recorder.mem_kept hm
      cases heq

/-- **Anchors** are written where calls are opened, and nowhere else. -/
theorem Fitting.correlation? {codec : Codec} {e : Event} (h : Fitting codec s reply e) :
    e.correlation? = reply.opening?.map fun o => o.call.correlation := by
  cases reply with
  | silent =>
      obtain ⟨stamp, probe, value, payload, rfl⟩ := h
      rfl
  | opened o =>
      obtain ⟨stamp, object, rfl⟩ := h
      exact Event.correlation?_anchor stamp o.probe object o.call.correlation
  | polled k answer =>
      obtain ⟨p, call, stamp, outcome, _, _, _, rfl⟩ := h
      rfl

/-! ## Wrappers -/

/-- What a step does to a wrapper: nothing, or it is dropped, or it gives an answer. -/
theorem Effect.at_wrapper (h : s.Effect step reply es t) {k : Nat} {p : Producer}
    (hp : s.wrapper? k = some p) :
    (reply.answer? k = none ∧ (t.wrapper? k = some p ∨ t.wrapper? k = none ∧ k < t.wrappers.length)) ∨
      ∃ answer q, reply.answer? k = some answer ∧ t.wrapper? k = some q ∧
        es = (s.facing step).reported step.moment.stamp p.call answer ∧ q.kind = p.kind ∧
        q.call = if p.kind.closes answer then none else p.call := by
  have hk : k < s.wrappers.length := lt_of_wrapper?_eq_some hp
  have keeps : t.wrappers = s.wrappers → t.wrapper? k = some p := by
    intro hw
    unfold wrapper? at hp ⊢
    rw [hw, hp]
  have appended : ∀ q : Producer, t.wrappers = s.wrappers ++ [some q] → t.wrapper? k = some p := by
    intro q hw
    rw [wrapper?_of_append hw, if_neg (Nat.ne_of_lt hk), hp]
  cases h with
  | aside _ hw _ => exact .inl ⟨rfl, .inl (keeps hw)⟩
  | dropped j _ hw =>
      refine .inl ⟨rfl, ?_⟩
      rw [wrapper?_of_set hw]
      by_cases hj : j = k
      · rw [if_pos ⟨hj, hk⟩, hw, List.length_set]
        exact .inr ⟨rfl, hk⟩
      · rw [if_neg fun h => hj h.1]
        exact .inl hp
  | passed q _ _ hw _ => exact .inl ⟨rfl, .inl (appended q hw)⟩
  | opened w _ _ _ _ hw => exact .inl ⟨rfl, .inl (appended _ hw)⟩
  | polled j p' q answer _ hp' hw hkind hcall =>
      by_cases hj : j = k
      · subst hj
        rw [hp] at hp'
        injection hp' with hp'
        subst hp'
        refine .inr ⟨answer, q, if_pos rfl, ?_, rfl, hkind, hcall⟩
        rw [wrapper?_of_set hw, if_pos ⟨rfl, hk⟩]
      · refine .inl ⟨if_neg hj, .inl ?_⟩
        rw [wrapper?_of_set hw, if_neg fun h => hj h.1, hp]
  | woven _ _ _ _ _ _ _ hw => exact .inl ⟨rfl, .inl (keeps hw)⟩

/-- Only a wrapper that is there gives an answer. -/
theorem Effect.answer?_of_none (h : s.Effect step reply es t) {k : Nat} (hp : s.wrapper? k = none) :
    reply.answer? k = none := by
  cases h with
  | polled j p q answer _ hp' _ _ _ =>
      apply if_neg
      intro hj
      rw [hj, hp] at hp'
      cases hp'
  | aside _ _ _ => rfl
  | dropped _ _ _ => rfl
  | passed _ _ _ _ _ => rfl
  | opened _ _ _ _ _ _ => rfl
  | woven _ _ _ _ _ _ _ _ => rfl

/-- The place of a dropped wrapper stays empty. -/
theorem Effect.at_gap (h : s.Effect step reply es t) {k : Nat} (hk : k < s.wrappers.length)
    (hp : s.wrapper? k = none) : t.wrapper? k = none := by
  have keeps : t.wrappers = s.wrappers → t.wrapper? k = none := by
    intro hw
    unfold wrapper? at hp ⊢
    rw [hw, hp]
  have appended : ∀ q : Producer, t.wrappers = s.wrappers ++ [some q] → t.wrapper? k = none := by
    intro q hw
    rw [wrapper?_of_append hw, if_neg (Nat.ne_of_lt hk), hp]
  cases h with
  | aside _ hw _ => exact keeps hw
  | dropped j _ hw =>
      rw [wrapper?_of_set hw, hp]
      exact ite_self _
  | passed q _ _ hw _ => exact appended q hw
  | opened w _ _ _ _ hw => exact appended _ hw
  | polled j p' q answer _ hp' hw _ _ =>
      have hj : j ≠ k := by
        intro hj
        rw [hj, hp] at hp'
        cases hp'
      rw [wrapper?_of_set hw, if_neg fun h => hj h.1, hp]
  | woven _ _ _ _ _ _ _ hw => exact keeps hw

/-- **A dropped wrapper** gives no answers, and nothing is written for it. -/
theorem silent_of_gap {k : Nat} : ∀ (steps : List Step) (s : Scene), k < s.wrappers.length →
    s.wrapper? k = none → writtenFor (s.history steps) k = [] ∧ answersOf (s.history steps) k = [] := by
  intro steps
  induction steps with
  | nil => exact fun s _ _ => ⟨rfl, rfl⟩
  | cons step rest ih =>
      intro s hk hp
      have he := (s.turn_effect step).2
      have hr := he.answer?_of_none hp
      obtain ⟨hw, ha⟩ :=
        ih (s.act step).2 (Nat.lt_of_lt_of_le hk he.wrappers_length_le) (he.at_gap hk hp)
      rw [history_cons, writtenFor_cons, answersOf_cons_of_none _ hr, hr, hw, ha]
      exact ⟨rfl, rfl⟩

/-- **A wrapper without a call** writes nothing, whatever it answers. -/
theorem writtenFor_of_closed {k : Nat} : ∀ (steps : List Step) (s : Scene) (p : Producer),
    s.wrapper? k = some p → p.call = none → writtenFor (s.history steps) k = [] := by
  intro steps
  induction steps with
  | nil => exact fun s p _ _ => rfl
  | cons step rest ih =>
      intro s p hp hc
      rw [history_cons, writtenFor_cons]
      rcases (s.turn_effect step).2.at_wrapper hp with
        ⟨hr, hkept | ⟨hgap, hk⟩⟩ | ⟨answer, q, hr, hq, hes, _, hcall⟩
      · rw [hr, ih _ p hkept hc]
        rfl
      · rw [hr, (silent_of_gap rest _ hk hgap).1]
        rfl
      · -- It answers, and there is no call that the answer could be written for.
        have hq' : q.call = none := by
          rw [hcall, hc]
          exact ite_self _
        rw [hes, hc, Recorder.reported_none, ih _ q hq hq', ite_self]
        rfl

/-- **A wrapper with a call** writes the outcomes that it reports, each once and in order. -/
theorem writtenFor_of_call {k : Nat} {call : OpenCall} : ∀ (steps : List Step) (s : Scene) (p : Producer),
    s.wrapper? k = some p → p.call = some call → s.recorder.discards = false → Accepting steps →
    writtenFor (s.history steps) k =
      (call.completions s.recorder.codec (p.kind.reported (answersOf (s.history steps) k))).map .event := by
  intro steps
  induction steps with
  | nil =>
      intro s p _ _ _ _
      cases p.kind <;> rfl
  | cons step rest ih =>
      intro s p hp hc hd haccept
      have hx := (s.turn_effect step).1
      have hd' : (s.act step).2.recorder.discards = false := hx.discards.trans hd
      have haccept' : Accepting rest := fun x hx => haccept x (List.mem_cons_of_mem _ hx)
      rw [history_cons, writtenFor_cons]
      rcases (s.turn_effect step).2.at_wrapper hp with
        ⟨hr, hkept | ⟨hgap, hk⟩⟩ | ⟨answer, q, hr, hq, hes, hkind, hcall⟩
      · rw [answersOf_cons_of_none _ hr, hr, ih _ p hkept hc hd' haccept', hx.codec]
        rfl
      · obtain ⟨hw, ha⟩ := silent_of_gap rest _ hk hgap
        rw [answersOf_cons_of_none _ hr, hr, hw, ha]
        cases p.kind <;> rfl
      · -- The wrapper answers: its outcome is written now, and the rest unless the call is closed.
        have written : (s.turn step).written =
            (call.completions s.recorder.codec
              (answer.outcome?.map fun outcome => (step.moment.stamp, outcome)).toList).map .event := by
          rw [hes, hc]
          cases answer with
          | ready outcome =>
              exact Recorder.kept_of_accepting _ hd (haccept step List.mem_cons_self .append)
          | pending => rfl
          | ended => rfl
          | finished => rfl
        rw [answersOf_cons_of_some _ hr, ProducerKind.reported_cons, hr, written]
        unfold OpenCall.completions
        rw [List.map_append, List.map_append]
        refine congrArg _ ?_
        by_cases hcloses : p.kind.closes answer = true
        · rw [if_pos hcloses] at hcall ⊢
          exact writtenFor_of_closed rest _ q hq hcall
        · rw [if_neg hcloses] at hcall ⊢
          have := ih _ q hq (hcall.trans hc) hd' haccept'
          rw [this, hkind, hx.codec]
          rfl

/-- Nothing is written for a wrapper before it is made. -/
theorem silent_before {k : Nat} : ∀ (steps : List Step) (s : Scene), (s.after steps).wrappers.length ≤ k →
    writtenFor (s.history steps) k = [] ∧ answersOf (s.history steps) k = [] := by
  intro steps
  induction steps with
  | nil => exact fun s _ => ⟨rfl, rfl⟩
  | cons step rest ih =>
      intro s hk
      obtain ⟨hw, ha⟩ := ih (s.act step).2 hk
      have hlen : s.wrappers.length ≤ k :=
        Nat.le_trans (s.wrappers_length_le_after (step :: rest)) hk
      have hr := (s.turn_effect step).2.answer?_of_none (wrapper?_eq_none_of_le hlen)
      rw [history_cons, writtenFor_cons, answersOf_cons_of_none _ hr, hr, hw, ha]
      exact ⟨rfl, rfl⟩

end Scene

/-! ## Ids -/

/-- The step hands over a producer. -/
def Step.isWrap (step : Step) : Bool :=
  match step.action with
  | .wrap _ => true
  | _ => false

/-- The number of producers that are handed over. -/
def producersIn (steps : List Step) : Nat := steps.countP Step.isWrap

theorem producersIn_le (step : Step) (rest : List Step) : producersIn rest ≤ producersIn (step :: rest) := by
  unfold producersIn
  rw [List.countP_cons]
  exact Nat.le_add_right _ _

/-- **The clock does not run out**: the readings when producers are handed over, and the zero that the clock
    starts with, stay below the greatest id by more than the number of producers. -/
structure ClockRemains (steps : List Step) : Prop where
  few : (producersIn steps : Int) < Int64.maxValue.toInt
  readings : ∀ step ∈ steps, step.isWrap = true →
    step.moment.reading.toInt + producersIn steps < Int64.maxValue.toInt

namespace Scene

variable {s t : Scene} {es : List Entry} {step : Step} {reply : Reply}

/-- Ids are taken where calls are opened, and nowhere else. -/
theorem Effect.opening_cases (h : s.Effect step reply es t) :
    (reply.opening? = none ∧ t.recorder.clock = s.recorder.clock) ∨
      ∃ w, step.action = .wrap w ∧
        reply = .opened ⟨s.wrappers.length, w.probe, w.kind, s.nextCall step w.probe⟩ ∧
        t.recorder.clock = s.recorder.clock.advance step.moment.reading ∧
        t.wrappers.length = s.wrappers.length + 1 := by
  cases h with
  | aside hs _ _ => exact .inl ⟨rfl, hs.clock⟩
  | dropped _ hs _ => exact .inl ⟨rfl, hs.clock⟩
  | passed _ hs _ _ _ => exact .inl ⟨rfl, hs.clock⟩
  | opened w object action clock _ hw =>
      exact .inr ⟨w, action, rfl, clock, by rw [hw, List.length_append]; rfl⟩
  | polled _ _ _ _ hs _ _ _ _ => exact .inl ⟨rfl, hs.clock⟩
  | woven _ _ _ _ _ clock _ _ => exact .inl ⟨rfl, clock⟩

/-- **Ids ascend**, and all are later than the one the clock gave last. -/
theorem openings_ascend : ∀ (steps : List Step) (s : Scene),
    s.recorder.clock.last.toInt + producersIn steps < Int64.maxValue.toInt →
    (∀ step ∈ steps, step.isWrap = true →
      step.moment.reading.toInt + producersIn steps < Int64.maxValue.toInt) →
    (∀ o ∈ openings (s.history steps), s.recorder.clock.last.toInt < o.call.correlation.toInt) ∧
      (openings (s.history steps)).Pairwise fun o o' =>
        o.call.correlation.toInt < o'.call.correlation.toInt := by
  intro steps
  induction steps with
  | nil => exact fun s _ _ => ⟨fun _ ho => (nomatch ho), List.Pairwise.nil⟩
  | cons step rest ih =>
      intro s hlast hreadings
      have hle := producersIn_le step rest
      have hrest : ∀ x ∈ rest, x.isWrap = true →
          x.moment.reading.toInt + producersIn rest < Int64.maxValue.toInt := by
        intro x hx hw
        have := hreadings x (List.mem_cons_of_mem _ hx) hw
        omega
      rw [history_cons, openings_cons]
      rcases (s.turn_effect step).2.opening_cases with ⟨hr, hclock⟩ | ⟨w, haction, hr, hclock, _⟩
      · rw [hr]
        have h := ih (s.act step).2 (by rw [hclock]; omega) hrest
        rw [hclock] at h
        exact h
      · -- This step takes an id: one producer fewer is left for the readings that follow.
        rw [hr]
        have hwrap : step.isWrap = true := by
          unfold Step.isWrap
          rw [haction]
        have hcount : producersIn (step :: rest) = producersIn rest + 1 := by
          unfold producersIn
          rw [List.countP_cons, if_pos hwrap]
        have hreading := hreadings step List.mem_cons_self hwrap
        rw [hcount] at hlast hreading
        have hid : (s.recorder.clock.next step.moment.reading).toInt =
            max (s.recorder.clock.last.toInt + 1) step.moment.reading.toInt :=
          s.recorder.clock.next_toInt _ (by omega)
        have hlast' : (s.act step).2.recorder.clock.last = s.recorder.clock.next step.moment.reading := by
          rw [hclock]
          rfl
        obtain ⟨hlater, hpair⟩ := ih (s.act step).2 (by rw [hlast', hid]; omega) hrest
        rw [hlast'] at hlater
        refine ⟨fun o ho => ?_, List.pairwise_cons.mpr ⟨hlater, hpair⟩⟩
        rcases List.mem_cons.mp ho with rfl | ho
        · show _ < (s.recorder.clock.next step.moment.reading).toInt
          omega
        · have := hlater o ho
          omega

/-- **No two calls share an id.** -/
theorem openings_nodup (s : Scene) (steps : List Step) (hclock : s.recorder.clock = .initial)
    (remains : ClockRemains steps) :
    ((openings (s.history steps)).map fun o => o.call.correlation).Nodup := by
  have hlast : s.recorder.clock.last.toInt = 0 := by
    rw [hclock]
    rfl
  have hfew := remains.few
  obtain ⟨_, hpair⟩ := openings_ascend steps s (by omega) remains.readings
  refine List.pairwise_map.mpr (hpair.imp fun hlt heq => ?_)
  rw [heq] at hlt
  exact Int.lt_irrefl _ hlt

end Scene

/-! ## Producers -/

/-- **What an opened producer leaves** in the log, around the turn in which it was handed over: one anchor,
    then and there, and later the outcomes that its wrapper reports. -/
structure Recorded (codec : Codec) (earlier : List Turn) (turn : Turn) (later : List Turn) (o : Opening) :
    Prop where
  reply : turn.reply = .opened o
  anchored : ∃ object, turn.written = [.event (.anchor turn.stamp o.probe object o.call.correlation)]
  unique : ((eventsOf (logOf (earlier ++ turn :: later))).filter fun e =>
    e.correlation? = some o.call.correlation) = eventsOf turn.written
  before : writtenFor earlier o.wrapper = []
  completed : writtenFor later o.wrapper =
    (o.call.completions codec (o.kind.reported (answersOf later o.wrapper))).map .event

/-- **What handing over a producer leaves** in the log, whether its call is opened or not. -/
structure Accounted (s : Scene) (step : Step) (w : Wrap) (earlier later : List Turn) : Prop where
  opened : (s.facing step).opens w.probe w.typeName = true →
    Recorded s.recorder.codec earlier (s.turn step) later
      ⟨s.wrappers.length, w.probe, w.kind, s.nextCall step w.probe⟩
  identified : s.suppressedOn step.thread = false → (s.facing step).opens w.probe w.typeName = false →
    ∃ object, (s.turn step).written = [.event (.ordinary step.moment.stamp w.probe object none)]
  unnoticed : s.suppressedOn step.thread = true → (s.turn step).written = []
  unopened : (s.facing step).opens w.probe w.typeName = false → writtenFor later s.wrappers.length = []

namespace Scene

variable {s : Scene} {step : Step}

/-- The anchors of an id that no call was opened with are nowhere. -/
theorem anchors_eq_nil (id : Int64) : ∀ (steps : List Step) (s : Scene),
    (∀ o ∈ openings (s.history steps), o.call.correlation ≠ id) →
    ((eventsOf (logOf (s.history steps))).filter fun e => e.correlation? = some id) = [] := by
  intro steps
  induction steps with
  | nil => exact fun s _ => rfl
  | cons step rest ih =>
      intro s hne
      have hhead : ∀ o, (s.turn step).reply.opening? = some o → o.call.correlation ≠ id := by
        intro o ho
        refine hne o ?_
        rw [history_cons, openings_cons, ho]
        exact List.mem_cons_self
      have htail : ∀ o ∈ openings ((s.act step).2.history rest), o.call.correlation ≠ id := by
        intro o ho
        refine hne o ?_
        rw [history_cons, openings_cons]
        exact List.mem_append_right _ ho
      rw [history_cons, logOf_cons, eventsOf_append, List.filter_append]
      refine List.append_eq_nil_iff.mpr ⟨List.filter_eq_nil_iff.mpr fun e he => ?_, ih _ htail⟩
      -- An event with a correlation id was written by a step that opened a call.
      rw [((s.turn_effect step).2.event_fits he).correlation?]
      cases ho : (s.turn step).reply.opening? with
      | none => exact of_decide_eq_false rfl
      | some o =>
          intro heq
          exact hhead o ho (Option.some.inj (of_decide_eq_true heq))

/-- **The anchors of an id** are those that were written where its call was opened: the ids of all other
    calls are different. -/
theorem anchor_unique (start s : Scene) (pre post : List Step) {step : Step} {o : Opening}
    (reply : (s.turn step).reply = .opened o)
    (distinct : ((openings (start.history pre ++ s.history (step :: post))).map
      fun o => o.call.correlation).Nodup) :
    ((eventsOf (logOf (start.history pre ++ s.history (step :: post)))).filter fun e =>
      e.correlation? = some o.call.correlation) = eventsOf (s.turn step).written := by
  have hsplit : openings (start.history pre ++ s.history (step :: post)) =
      openings (start.history pre) ++ o :: openings ((s.act step).2.history post) := by
    rw [openings_append, history_cons, openings_cons, reply]
    rfl
  rw [hsplit, List.map_append, List.map_cons, List.nodup_append, List.nodup_cons] at distinct
  obtain ⟨_, ⟨hlater, _⟩, hearlier⟩ := distinct
  have before := anchors_eq_nil o.call.correlation pre start fun o' ho =>
    hearlier _ (List.mem_map_of_mem ho) _ List.mem_cons_self
  have after := anchors_eq_nil o.call.correlation post (s.act step).2
    fun o' ho heq => hlater (List.mem_map.mpr ⟨o', ho, heq⟩)
  rw [logOf_append, eventsOf_append, List.filter_append, before, List.nil_append]
  rw [history_cons, logOf_cons, eventsOf_append, List.filter_append, after, List.append_nil]
  apply List.filter_eq_self.mpr
  intro e he
  have fits := (s.turn_effect step).2.event_fits he
  rw [fits.correlation?, reply]
  exact decide_eq_true rfl

/-- A call is opened only while recording is not suppressed. -/
theorem active_of_opens {r : Recorder} {probe : ProbeId} {typeName : String}
    (h : r.opens probe typeName = true) : r.suppressed = false := by
  unfold Recorder.opens at h
  cases hs : r.suppressed with
  | false => rfl
  | true =>
      rw [hs] at h
      cases h

/-- **A producer whose call is opened** leaves its anchor and its completions. -/
theorem recorded_of_opens (start : Scene) (pre : List Step) {step : Step} (post : List Step) {w : Wrap}
    (action : step.action = .wrap w) (keeps : start.recorder.discards = false)
    (accepting : Accepting (pre ++ step :: post))
    (distinct : ((openings (start.history (pre ++ step :: post))).map fun o => o.call.correlation).Nodup)
    (opens : ((start.after pre).facing step).opens w.probe w.typeName = true) :
    Recorded start.recorder.codec (start.history pre) ((start.after pre).turn step)
      (((start.after pre).act step).2.history post)
      ⟨(start.after pre).wrappers.length, w.probe, w.kind, (start.after pre).nextCall step w.probe⟩ := by
  have hbefore := after_extends pre start
  have hd : (start.after pre).recorder.discards = false := hbefore.discards.trans keeps
  have haccept : ∀ call, step.refusal call = none :=
    accepting step (List.mem_append_right _ List.mem_cons_self)
  have hpost : Accepting post := fun x hx =>
    accepting x (List.mem_append_right _ (List.mem_cons_of_mem _ hx))
  obtain ⟨call, handed, hr, hw⟩ := (start.after pre).turn_handed action
  have hx := ((start.after pre).turn_effect step).1
  rw [history_append] at distinct
  generalize hs : start.after pre = s at *
  -- Of the three ways to hand over a producer, only the one that opens its call is left.
  have hmade : call = some (s.nextCall step w.probe) ∧ (s.turn step).written = [.event
      (.anchor step.moment.stamp w.probe s.recorder.identities.nextId
        (s.nextCall step w.probe).correlation)] := by
    generalize (s.turn step).written = written at handed
    cases handed with
    | unnoticed suppressed => cases (active_of_opens opens).symm.trans suppressed
    | identified _ unopened =>
        rw [opens] at unopened
        cases unopened
    | opened _ => exact ⟨rfl, Recorder.kept_of_accepting _ hd (haccept .anchor)⟩
  obtain ⟨rfl, hwritten⟩ := hmade
  refine ⟨hr, ⟨_, hwritten⟩, ?_, ?_, ?_⟩
  · exact anchor_unique start s pre post hr distinct
  · exact (silent_before pre start (Nat.le_of_eq (by rw [hs]))).1
  · have hcodec : (s.act step).2.recorder.codec = start.recorder.codec := hx.codec.trans hbefore.codec
    rw [← hcodec]
    exact writtenFor_of_call post _ _ hw rfl (hx.discards.trans hd) hpost

/-- **Every producer is accounted for** in the run that it is part of. -/
theorem accounted (start : Scene) (pre : List Step) {step : Step} (post : List Step) {w : Wrap}
    (action : step.action = .wrap w) (keeps : start.recorder.discards = false)
    (accepting : Accepting (pre ++ step :: post))
    (distinct : ((openings (start.history (pre ++ step :: post))).map fun o => o.call.correlation).Nodup) :
    Accounted (start.after pre) step w (start.history pre) (((start.after pre).act step).2.history post) := by
  have hbefore := after_extends pre start
  have hd : (start.after pre).recorder.discards = false := hbefore.discards.trans keeps
  have haccept : ∀ call, step.refusal call = none :=
    accepting step (List.mem_append_right _ List.mem_cons_self)
  obtain ⟨call, handed, hr, hw⟩ := (start.after pre).turn_handed action
  refine ⟨?_, ?_, ?_, ?_⟩
  · rw [hbefore.codec]
    exact recorded_of_opens start pre post action keeps accepting distinct
  · intro hactive hunopened
    generalize ((start.after pre).turn step).written = written at handed
    cases handed with
    | unnoticed suppressed =>
        rw [hactive] at suppressed
        cases suppressed
    | identified _ _ => exact ⟨_, Recorder.kept_of_accepting _ hd (haccept .append)⟩
    | opened opens =>
        rw [hunopened] at opens
        cases opens
  · intro hsuppressed
    generalize ((start.after pre).turn step).written = written at handed
    cases handed with
    | unnoticed _ => rfl
    | identified active _ =>
        rw [hsuppressed] at active
        cases active
    | opened opens => cases (active_of_opens opens).symm.trans hsuppressed
  · intro hunopened
    have hc : call = none := by
      generalize ((start.after pre).turn step).written = written at handed
      cases handed with
      | unnoticed _ => rfl
      | identified _ _ => rfl
      | opened opens =>
          rw [hunopened] at opens
          cases opens
    subst hc
    exact writtenFor_of_closed post _ _ hw rfl

end Scene

/-- **What a whole run leaves** in the log of a sink, as far as producers are concerned. -/
structure ProducersRecorded (sink : Sink) (r : Recorder) (steps : List Step) : Prop where
  log : (r.scene.after steps).recorder.sink.log = sink.log ++ logOf (r.scene.history steps)
  distinct : ((openings (r.scene.history steps)).map fun o => o.call.correlation).Nodup
  accounted : ∀ (pre : List Step) (step : Step) (post : List Step) (w : Wrap),
    steps = pre ++ step :: post → step.action = .wrap w →
    Accounted (r.scene.after pre) step w (r.scene.history pre)
      (((r.scene.after pre).act step).2.history post)
  /-- Nothing is written for a wrapper after it was dropped. -/
  dropped : ∀ (pre : List Step) (step : Step) (post : List Step) (k : Nat),
    steps = pre ++ step :: post → step.action = .discard k → k < (r.scene.after pre).wrappers.length →
    writtenFor (((r.scene.after pre).act step).2.history post) k = []

/-- **Producers in every run.** However wrappers are made, polled and dropped, and whatever happens in
    between: ids are distinct; a producer whose call is opened leaves one anchor at once, and then its
    outcomes up to the first one of a future and the first end of a stream; another producer leaves one event
    that names it, and while recording is suppressed nothing. -/
theorem run_producersRecorded {o : RecorderOptions} {sink : Sink} {r : Recorder} {steps : List Step}
    (built : Recorder.build o sink = .ok r) (keeps : r.discards = false) (accepting : Accepting steps)
    (remains : ClockRemains steps) : ProducersRecorded sink r steps := by
  obtain ⟨policy, rfl⟩ := Recorder.eq_withPolicy_of_build built
  have distinct := Scene.openings_nodup (Recorder.withPolicy o policy sink).scene steps rfl remains
  refine ⟨(Scene.after_extends steps _).log, distinct, ?_, ?_⟩
  · intro pre step post w hsteps haction
    rw [hsteps] at accepting distinct
    exact Scene.accounted _ pre post haction keeps accepting distinct
  · intro pre step post k _ haction hk
    generalize (Recorder.withPolicy o policy sink).scene.after pre = s at hk ⊢
    have hw : (s.act step).2.wrappers = s.wrappers.set k none := by
      unfold Scene.act Scene.perform
      rw [haction]
      rfl
    refine (Scene.silent_of_gap post _ ?_ ?_).1
    · rw [hw, List.length_set]
      exact hk
    · rw [Scene.wrapper?_of_set hw, if_pos ⟨rfl, hk⟩]

/-- A future that is asked again after its outcome, and would give another one. -/
def futureSteps : List Step := acceptedSteps
  [(0, .mark [1]),
   (5, .wrap ⟨1, "Reply", .single, [.ready (.value (.done (.value .null)))],
     .ready (.value (.done (.panic none))), 0⟩),
   (3, .poll 0), (3, .poll 0)]

theorem run_producersRecorded_future :
    ∃ r, Recorder.build .capturing .empty = .ok r ∧
      openings (r.scene.history futureSteps) = [⟨0, 1, .single, ⟨5, 1⟩⟩] ∧
      (writtenFor (r.scene.history futureSteps) 0).length = 1 ∧
      ProducersRecorded .empty r futureSteps :=
  ⟨_, rfl, by decide, by decide, run_producersRecorded (o := .capturing) rfl rfl (accepting_acceptedSteps _)
    ⟨by decide, by decide⟩⟩

end ProbeRecorder
