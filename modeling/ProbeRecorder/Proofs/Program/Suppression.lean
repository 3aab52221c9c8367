import ProbeRecorder.Proofs.Program.Guards
import ProbeRecorder.Proofs.Recorder.Fate

/-!
# `ProbeRecorder.Proofs.Program.Suppression` — what is recorded while recording is suppressed is not seen

A run is compared with the one that is left of it when all calls made while recording is suppressed are
deleted: those of the program while a guard suppresses it, and those that serialization code makes, at any
depth. A producer that would have been handed over then is not, so its wrapper is missing, and the wrappers
made later have smaller numbers. Both runs leave the same recorder.

## Contents
- **Silence.** `Script.silenced` and the like: serialization code without its calls comes to the same.
- **Numbers.** `survivors`, the wrappers that are left, and `newNumber?` of each of them.
- **Deletion.** `Action.left`, `Scene.unsuppressed`.
- **One step.** `Scene.Shadowed`, the relation between the two runs, kept by every step (`Shadowed.act`).
- **Runs.** `Shadowed.after`; what is left is never suppressed (`Scene.Unsuppressed`).
- **Invisibility.** `run_unseen`.
-/

namespace ProbeRecorder

/-! ## Silence -/

/-- A script without its calls. -/
def Script.silenced (s : Script) : Script := .done s.outcome

/-- A value whose serialization calls nothing. -/
def Subject.silenced : Subject → Subject
  | .mk a typeName shape script => .mk a typeName shape script.silenced

/-- An outcome whose serialization calls nothing. -/
def CallOutcome.silenced : CallOutcome → CallOutcome
  | .value script => .value script.silenced
  | .error e => .error e

def Readiness.silenced : Readiness → Readiness
  | .ready outcome => .ready outcome.silenced
  | answer => answer

/-- A producer whose outcomes call nothing. -/
def Producer.silenced (p : Producer) : Producer :=
  { p with answers := p.answers.map Readiness.silenced, exhausted := p.exhausted.silenced }

def Wrap.silenced (w : Wrap) : Wrap :=
  { w with answers := w.answers.map Readiness.silenced, exhausted := w.exhausted.silenced }

namespace Recorder

/-- **A value is recorded alike** without the calls that its serialization makes. -/
theorem recordValue_silenced (r : Recorder) (m : Moment) (probe : ProbeId) (value : Option Subject) :
    r.recordValue m probe (value.map Subject.silenced) = r.recordValue m probe value := by
  cases hs : r.suppressed with
  | true => rw [recordValue_of_suppressed m probe _ hs, recordValue_of_suppressed m probe _ hs]
  | false =>
      rw [recordValue_of_active m probe _ hs, recordValue_of_active m probe _ hs]
      -- Identity and fate look at a script's outcome only, and that is what silence leaves.
      cases value with
      | none => rfl
      | some subject =>
          obtain ⟨a, typeName, shape, script⟩ := subject
          rfl

/-- Guarded work counts by what it does to the suppressed recorder. -/
theorem guarded_congr {r : Recorder} {f g : Recorder → Recorder}
    (h : f { r with suppressed := true } = g { r with suppressed := true }) : r.guarded f = r.guarded g := by
  unfold guarded
  rw [h]

/-- **An outcome is written alike** without the calls that its serialization makes. -/
theorem writeCompletion_silenced (r : Recorder) (m : Moment) (call : OpenCall) (outcome : CallOutcome) :
    r.writeCompletion m call outcome.silenced = r.writeCompletion m call outcome := by
  cases outcome with
  | error e => rfl
  | value script =>
      have quiet : script.run m { r with suppressed := true } = { r with suppressed := true } :=
        script.run_of_suppressed m rfl
      have silent : script.silenced.run m { r with suppressed := true } = { r with suppressed := true } :=
        script.silenced.run_of_suppressed m rfl
      have payload : outcomePayload m (CallOutcome.value script).silenced { r with suppressed := true } =
          outcomePayload m (.value script) { r with suppressed := true } := by
        simp only [outcomePayload, CallOutcome.silenced, runOutcome, quiet, silent]
        rfl
      refine guarded_congr ?_
      simp only [payload]

end Recorder

namespace Producer

theorem silenced_call (p : Producer) : p.silenced.call = p.call := rfl

theorem silenced_next (p : Producer) : p.silenced.next = (p.next.1.silenced, p.next.2.silenced) := by
  obtain ⟨kind, answers, exhausted, slack, call, resolved⟩ := p
  cases answers <;> rfl

theorem silenced_report (p : Producer) (m : Moment) (outcome : CallOutcome) (r : Recorder) :
    p.silenced.report m outcome.silenced r = p.report m outcome r := by
  unfold report
  rw [silenced_call]
  cases p.call with
  | none => rfl
  | some call => exact r.writeCompletion_silenced m call outcome

/-- **A poll does the same** to the recorder without the calls of the outcome's serialization. -/
theorem silenced_advance (p : Producer) (m : Moment) (r : Recorder) :
    (p.silenced.advance m r).2.1 = (p.advance m r).2.1.silenced ∧
      (p.silenced.advance m r).2.2 = (p.advance m r).2.2 := by
  have hkind : p.silenced.kind = p.kind := rfl
  unfold advance
  rw [silenced_next, hkind]
  generalize p.next = found
  obtain ⟨answer, q⟩ := found
  cases answer with
  | pending => exact ⟨rfl, rfl⟩
  | ended => cases p.kind <;> exact ⟨rfl, rfl⟩
  | ready outcome => cases p.kind <;> exact ⟨rfl, q.silenced_report m outcome r⟩

/-- **A wrapper without a call** passes answers on, and nothing else. -/
theorem advance_of_closed (p : Producer) (m : Moment) (r : Recorder) (closed : p.call = none) :
    (p.advance m r).2.2 = r ∧ (p.advance m r).2.1.call = none := by
  have silent : p.next.2.call = none := p.next_call.trans closed
  refine ⟨?_, ?_⟩
  · unfold advance
    generalize p.next = found at silent ⊢
    obtain ⟨answer, q⟩ := found
    cases answer with
    | pending => rfl
    | ended => cases p.kind <;> rfl
    | ready outcome => cases p.kind <;> exact report_of_closed silent
  · rw [(p.advance_logs m r).2.2, closed]
    split <;> rfl

end Producer

/-! ## Numbers -/

/-- **The wrappers that are left**, given for each wrapper whether it is. -/
def survivors : List Bool → List (Option Producer) → List (Option Producer)
  | true :: left, p :: ps => p.map Producer.silenced :: survivors left ps
  | false :: left, _ :: ps => survivors left ps
  | _, _ => []

/-- **The number of a wrapper** among those that are left. -/
def newNumber? : List Bool → Nat → Option Nat
  | true :: _, 0 => some 0
  | true :: left, k + 1 => (newNumber? left k).map (· + 1)
  | false :: left, k + 1 => newNumber? left k
  | _, _ => none

/-- One more wrapper. -/
theorem survivors_concat {left : List Bool} {ps : List (Option Producer)} (h : left.length = ps.length)
    (b : Bool) (p : Option Producer) :
    survivors (left ++ [b]) (ps ++ [p]) =
      survivors left ps ++ if b then [p.map Producer.silenced] else [] := by
  induction left generalizing ps with
  | nil =>
      obtain rfl := List.eq_nil_of_length_eq_zero h.symm
      cases b <;> rfl
  | cons a left ih =>
      cases ps with
      | nil => cases h
      | cons q ps =>
          have rest := ih (Nat.succ.inj h)
          cases a with
          | true => exact congrArg (q.map Producer.silenced :: ·) rest
          | false => exact rest

theorem newNumber?_concat_of_lt {left : List Bool} {k : Nat} (h : k < left.length) (b : Bool) :
    newNumber? (left ++ [b]) k = newNumber? left k := by
  induction left generalizing k with
  | nil => cases h
  | cons a left ih =>
      cases k with
      | zero => cases a <;> rfl
      | succ k =>
          have rest := ih (Nat.lt_of_succ_lt_succ h)
          cases a with
          | true => exact congrArg (Option.map (· + 1)) rest
          | false => exact rest

theorem newNumber?_concat_length (left : List Bool) (b : Bool) :
    (newNumber? (left ++ [b]) left.length).isSome = b := by
  induction left with
  | nil => cases b <;> rfl
  | cons a left ih =>
      cases a with
      | true =>
          show ((newNumber? (left ++ [b]) left.length).map (· + 1)).isSome = b
          rw [Option.isSome_map]
          exact ih
      | false => exact ih

/-- A wrapper that is left stands under its new number. -/
theorem getElem?_survivors {left : List Bool} {ps : List (Option Producer)} {k j : Nat}
    (h : newNumber? left k = some j) :
    (survivors left ps)[j]? = ps[k]?.map (Option.map Producer.silenced) := by
  induction left generalizing ps k j with
  | nil => cases h
  | cons a left ih =>
      cases a with
      | true =>
          cases k with
          | zero =>
              obtain rfl : 0 = j := Option.some.inj h
              cases ps <;> rfl
          | succ k =>
              obtain ⟨i, hi, rfl⟩ := Option.map_eq_some_iff.mp h
              cases ps with
              | nil => rfl
              | cons q ps => exact ih hi
      | false =>
          cases k with
          | zero => cases h
          | succ k =>
              cases ps with
              | nil => rfl
              | cons q ps => exact ih h

/-- Changing a wrapper that is left. -/
theorem survivors_set_of_some {left : List Bool} {ps : List (Option Producer)} {k j : Nat}
    (h : newNumber? left k = some j) (p : Option Producer) :
    survivors left (ps.set k p) = (survivors left ps).set j (p.map Producer.silenced) := by
  induction left generalizing ps k j with
  | nil => cases h
  | cons a left ih =>
      cases ps with
      | nil => cases a <;> rfl
      | cons q ps =>
          cases a with
          | true =>
              cases k with
              | zero =>
                  obtain rfl : 0 = j := Option.some.inj h
                  rfl
              | succ k =>
                  obtain ⟨i, hi, rfl⟩ := Option.map_eq_some_iff.mp h
                  exact congrArg (q.map Producer.silenced :: ·) (ih hi)
          | false =>
              cases k with
              | zero => cases h
              | succ k => exact ih h

/-- Changing a wrapper that is not left. -/
theorem survivors_set_of_none {left : List Bool} {ps : List (Option Producer)} {k : Nat}
    (h : newNumber? left k = none) (p : Option Producer) :
    survivors left (ps.set k p) = survivors left ps := by
  induction left generalizing ps k with
  | nil => cases ps <;> cases k <;> rfl
  | cons a left ih =>
      cases ps with
      | nil => rfl
      | cons q ps =>
          cases a with
          | true =>
              cases k with
              | zero => cases h
              | succ k => exact congrArg (q.map Producer.silenced :: ·) (ih (Option.map_eq_none_iff.mp h))
          | false =>
              cases k with
              | zero => rfl
              | succ k => exact ih h

/-! ## Deletion -/

/-- A call that records something. -/
def Action.records : Action → Bool
  | .scalar _ _ => true
  | .value _ _ => true
  | .wrap _ => true
  | _ => false

/-- **What is left of an action**: nothing of a call that records while recording is suppressed, nor of what
    is done with a wrapper that was never made; and no call in the serialization of a value. -/
def Action.left (suppressed : Bool) (left : List Bool) : Action → Option Action
  | .scalar probe s => if suppressed then none else some (.scalar probe s)
  | .value probe observed => if suppressed then none else some (.value probe (observed.map Subject.silenced))
  | .wrap w => if suppressed then none else some (.wrap w.silenced)
  | .poll k => (newNumber? left k).map .poll
  | .discard k => (newNumber? left k).map .discard
  | action => some action

/-- Whether the wrapper that an action makes is left. -/
def Action.survival (suppressed : Bool) : Action → List Bool
  | .wrap _ => [!suppressed]
  | _ => []

/-- What is left of a step. -/
def Step.left (suppressed : Bool) (left : List Bool) (step : Step) : List Step :=
  ((step.action.left suppressed left).map fun action => { step with action := action }).toList

namespace Scene

/-- **What is left of a run** when all calls made while recording is suppressed on their thread are deleted. -/
def unsuppressed (s : Scene) (left : List Bool) : List Step → List Step
  | [] => []
  | step :: rest => step.left (s.suppressedOn step.thread) left ++
      (s.act step).2.unsuppressed (left ++ step.action.survival (s.suppressedOn step.thread)) rest

/-- What a step is told that asks for the latest instance of a type. -/
def told (s : Scene) (step : Step) : List (Option Allocation) :=
  match step.action with
  | .latest typeName => [(s.recorder.latestInstance step.moment.heap typeName).1]
  | _ => []

/-- **The latest instances** that a run asks for. -/
def found (s : Scene) : List Step → List (Option Allocation)
  | [] => []
  | step :: rest => s.told step ++ (s.act step).2.found rest

/-- Whatever a run records, it records while recording is not suppressed on the thread. -/
def Unsuppressed (start : Scene) (steps : List Step) : Prop :=
  ∀ pre step post, steps = pre ++ step :: post → step.action.records = true →
    (start.after pre).suppressedOn step.thread = false

end Scene

/-! ## One step -/

namespace Recorder

/-- **Alike** are recorders that differ at most in what the sink refuses at the moment, and in the flag of the
    thread that is at work. -/
def Alike (r r' : Recorder) : Prop :=
  ∃ refusal flag, r' = { r with sink := { r.sink with refusal := refusal }, suppressed := flag }

theorem Alike.refl (r : Recorder) : r.Alike r := ⟨r.sink.refusal, r.suppressed, rfl⟩

end Recorder

namespace Scene

variable {s t : Scene} {left : List Bool}

/-- **A scene and its shadow**, which has the wrappers that are left; those that are not have no call. -/
structure Shadowed (s t : Scene) (left : List Bool) : Prop where
  recorder : s.recorder.Alike t.recorder
  threads : t.threads = s.threads
  wrappers : t.wrappers = survivors left s.wrappers
  length : left.length = s.wrappers.length
  passed : ∀ k p, newNumber? left k = none → s.wrapper? k = some p → p.call = none

theorem Shadowed.suppressedOn (h : s.Shadowed t left) (thread : Nat) :
    t.suppressedOn thread = s.suppressedOn thread := by
  unfold Scene.suppressedOn
  rw [h.threads]

/-- During a step, nothing tells the two recorders apart. -/
theorem Shadowed.facing (h : s.Shadowed t left) (step : Step) (action : Action) :
    t.facing { step with action := action } = s.facing step := by
  obtain ⟨refusal, flag, hr⟩ := h.recorder
  unfold Scene.facing
  rw [hr, h.suppressedOn]

/-- The step itself tells nothing either. -/
theorem Shadowed.alike (h : s.Shadowed t left) (step : Step) : (s.facing step).Alike t.recorder := by
  obtain ⟨refusal, flag, hr⟩ := h.recorder
  exact ⟨refusal, flag, hr⟩

/-- The wrapper under a new number. -/
theorem Shadowed.wrapper? (h : s.Shadowed t left) {k j : Nat} (number : newNumber? left k = some j) :
    t.wrapper? j = (s.wrapper? k).map Producer.silenced := by
  unfold Scene.wrapper?
  rw [h.wrappers, getElem?_survivors number]
  cases s.wrappers[k]? with
  | none => rfl
  | some p => cases p <;> rfl

/-- **The same wrappers** on both sides. -/
theorem Shadowed.of_recorder (h : s.Shadowed t left) {s' t' : Scene} (recorder : s'.recorder.Alike t'.recorder)
    (threads : t'.threads = s'.threads) (wrappers : s'.wrappers = s.wrappers)
    (wrappers' : t'.wrappers = t.wrappers) : s'.Shadowed t' left := by
  refine ⟨recorder, threads, ?_, ?_, ?_⟩
  · rw [wrappers', wrappers, h.wrappers]
  · rw [wrappers, h.length]
  · intro k p gone present
    unfold Scene.wrapper? at present
    rw [wrappers] at present
    exact h.passed k p gone present

/-- **A wrapper more**, which is left or has no call. -/
theorem Shadowed.concat (h : s.Shadowed t left) {s' t' : Scene} (p : Producer) (b : Bool)
    (recorder : s'.recorder.Alike t'.recorder) (threads : t'.threads = s'.threads)
    (wrappers : s'.wrappers = s.wrappers ++ [some p])
    (wrappers' : t'.wrappers = t.wrappers ++ if b then [some p.silenced] else [])
    (closed : b = false → p.call = none) : s'.Shadowed t' (left ++ [b]) := by
  refine ⟨recorder, threads, ?_, ?_, ?_⟩
  · rw [wrappers', wrappers, survivors_concat h.length, h.wrappers]
    rfl
  · rw [wrappers, List.length_append, List.length_append, h.length]
    rfl
  · intro k q gone present
    rw [wrapper?_of_append wrappers] at present
    by_cases new : k = s.wrappers.length
    · rw [if_pos new] at present
      obtain rfl : p = q := Option.some.inj present
      refine closed ?_
      rw [new, ← h.length] at gone
      rw [← newNumber?_concat_length left b, gone]
      rfl
    · rw [if_neg new] at present
      have old : k < left.length := by
        rw [h.length]
        exact lt_of_wrapper?_eq_some present
      rw [newNumber?_concat_of_lt old] at gone
      exact h.passed k q gone present

/-- **A wrapper changed** on both sides. -/
theorem Shadowed.set (h : s.Shadowed t left) {s' t' : Scene} {k j : Nat} (p : Option Producer)
    (number : newNumber? left k = some j) (recorder : s'.recorder.Alike t'.recorder)
    (threads : t'.threads = s'.threads) (wrappers : s'.wrappers = s.wrappers.set k p)
    (wrappers' : t'.wrappers = t.wrappers.set j (p.map Producer.silenced)) : s'.Shadowed t' left := by
  refine ⟨recorder, threads, ?_, ?_, ?_⟩
  · rw [wrappers', wrappers, survivors_set_of_some number, h.wrappers]
  · rw [wrappers, List.length_set, h.length]
  · intro i q gone present
    have other : k ≠ i := by
      intro same
      rw [same, gone] at number
      cases number
    rw [wrapper?_of_set wrappers, if_neg fun same => other same.1] at present
    exact h.passed i q gone present

/-- **A wrapper changed** that has no shadow. -/
theorem Shadowed.set_passed (h : s.Shadowed t left) {s' : Scene} {k : Nat} (p : Option Producer)
    (number : newNumber? left k = none) (recorder : s'.recorder.Alike t.recorder)
    (threads : t.threads = s'.threads) (wrappers : s'.wrappers = s.wrappers.set k p)
    (closed : ∀ q, p = some q → q.call = none) : s'.Shadowed t left := by
  refine ⟨recorder, threads, ?_, ?_, ?_⟩
  · rw [wrappers, survivors_set_of_none number, h.wrappers]
  · rw [wrappers, List.length_set, h.length]
  · intro i q gone present
    rw [wrapper?_of_set wrappers] at present
    split at present
    · exact closed q present
    · exact h.passed i q gone present

/-! ### Calls -/

variable {step : Step}

/-- What is left of an action does the same to the thread that takes it. -/
theorem act_of_left {action remaining : Action} {suppressed : Bool}
    (h : action.left suppressed left = some remaining) (t : ThreadState) : t.act remaining = t.act action := by
  cases action with
  | scalar probe value => cases suppressed <;> cases h; rfl
  | value probe value => cases suppressed <;> cases h; rfl
  | wrap w => cases suppressed <;> cases h; rfl
  | poll k =>
      obtain ⟨j, _, rfl⟩ := Option.map_eq_some_iff.mp h
      rfl
  | discard k =>
      obtain ⟨j, _, rfl⟩ := Option.map_eq_some_iff.mp h
      rfl
  | _ =>
      cases h
      rfl

/-- No guard is deleted. -/
theorem not_guards_of_left {action : Action} {suppressed : Bool} (h : action.left suppressed left = none) :
    action.guards = false := by
  cases action with
  | suppress => cases h
  | release g => cases h
  | _ => rfl

/-- **The threads of both runs** are in the same state after a step. -/
theorem Shadowed.threads_left (h : s.Shadowed t left) (step : Step) (suppressed : Bool) :
    (t.after (step.left suppressed left)).threads = (s.act step).2.threads := by
  unfold Step.left
  cases what : step.action.left suppressed left with
  | none =>
      show t.threads = _
      rw [threads_act, ThreadState.act_of_not_guards (not_guards_of_left what), Function.update_eq_self]
      exact h.threads
  | some action =>
      show (t.act { step with action := action }).2.threads = _
      rw [threads_act, threads_act, h.threads, act_of_left what]

/-- A call that comes to nothing may as well be left out. -/
theorem Shadowed.unnoticed (h : s.Shadowed t left) (quiet : (s.perform step).2 = s.withRecorder (s.facing step))
    (threads : t.threads = (s.act step).2.threads) : (s.act step).2.Shadowed t left := by
  refine h.of_recorder ?_ threads (congrArg Scene.wrappers quiet :) rfl
  show (s.perform step).2.recorder.Alike t.recorder
  rw [quiet]
  exact h.alike step

/-- A call that concerns the recorder only is done by the same recorder. -/
theorem Shadowed.kept (h : s.Shadowed t left) {action : Action} (work : Recorder → Recorder)
    (performed : (s.perform step).2 = s.withRecorder (work (s.facing step)))
    (remains : (t.perform { step with action := action }).2 =
      t.withRecorder (work (t.facing { step with action := action })))
    (threads : (t.act { step with action := action }).2.threads = (s.act step).2.threads) :
    (s.act step).2.Shadowed (t.act { step with action := action }).2 left := by
  refine h.of_recorder ?_ threads (congrArg Scene.wrappers performed :) (congrArg Scene.wrappers remains :)
  show (s.perform step).2.recorder.Alike (t.perform { step with action := action }).2.recorder
  rw [performed, remains, h.facing]
  exact Recorder.Alike.refl _

theorem Shadowed.wrap (h : s.Shadowed t left) (w : Wrap) (action : step.action = .wrap w) :
    (s.act step).2.Shadowed (t.after (step.left (s.suppressedOn step.thread) left))
      (left ++ [!s.suppressedOn step.thread]) := by
  have threads := h.threads_left step (s.suppressedOn step.thread)
  have acted : (s.act step).2 = (s.wrap (s.facing step) step.moment w).2.putBack step.thread := by
    rw [Scene.act, s.perform_wrap action]
  rw [wrap_eq] at acted
  rw [acted] at threads ⊢
  unfold Step.left at threads ⊢
  rw [action] at threads ⊢
  cases hs : s.suppressedOn step.thread with
  | true =>
      -- The producer is not handed over in the run that is left; here its wrapper gets no call.
      have unopened := Recorder.openCall_of_suppressed step.moment w.probe w.typeName (r := s.facing step) hs
      rw [hs, unopened] at threads
      rw [unopened]
      exact h.concat (w.observed none) false (h.alike step) threads rfl (List.append_nil _).symm fun _ => rfl
  | false =>
      have same := h.facing step (.wrap w.silenced)
      rw [hs] at threads
      refine h.concat _ true ?_ threads rfl ?_ fun absurd => nomatch absurd
      · show Recorder.Alike _ (t.wrap (t.facing { step with action := .wrap w.silenced }) step.moment
          w.silenced).2.recorder
        rw [wrap_eq, same]
        exact Recorder.Alike.refl _
      · show (t.wrap (t.facing { step with action := .wrap w.silenced }) step.moment w.silenced).2.wrappers = _
        rw [wrap_eq, same]
        rfl

theorem Shadowed.poll (h : s.Shadowed t left) (k : Nat) (action : step.action = .poll k) (suppressed : Bool) :
    (s.act step).2.Shadowed (t.after (step.left suppressed left)) left := by
  have threads := h.threads_left step suppressed
  have performed := congrArg Prod.snd (s.perform_poll action)
  unfold Step.left at threads ⊢
  simp only [action, Action.left] at threads ⊢
  cases number : newNumber? left k with
  | none =>
      rw [number] at threads
      cases present : s.wrapper? k with
      | none => exact h.unnoticed (performed.trans (poll_of_none present)) threads
      | some p =>
          obtain ⟨quiet, closed⟩ := p.advance_of_closed step.moment (s.facing step) (h.passed k p number present)
          rw [poll_of_some present, quiet] at performed
          refine h.set_passed (some (p.advance step.moment (s.facing step)).2.1) number ?_ threads
            (congrArg Scene.wrappers performed :) ?_
          · show (s.perform step).2.recorder.Alike t.recorder
            rw [performed]
            exact h.alike step
          · intro q hq
            rw [← Option.some.inj hq]
            exact closed
  | some j =>
      rw [number] at threads
      have remains : (t.perform { step with action := .poll j }).2 =
          (t.poll (s.facing step) step.moment j).2 := by
        rw [← h.facing step (.poll j)]
        rfl
      cases present : s.wrapper? k with
      | none =>
          have gone : t.wrapper? j = none := by rw [h.wrapper? number, present]; rfl
          rw [poll_of_none present] at performed
          rw [poll_of_none gone] at remains
          refine h.of_recorder ?_ threads (congrArg Scene.wrappers performed :) (congrArg Scene.wrappers remains :)
          show (s.perform step).2.recorder.Alike (t.perform { step with action := .poll j }).2.recorder
          rw [performed, remains]
          exact Recorder.Alike.refl _
      | some p =>
          have shadow : t.wrapper? j = some p.silenced := by rw [h.wrapper? number, present]; rfl
          obtain ⟨after, recorder⟩ := p.silenced_advance step.moment (s.facing step)
          rw [poll_of_some present] at performed
          rw [poll_of_some shadow, after, recorder] at remains
          refine h.set (some (p.advance step.moment (s.facing step)).2.1) number ?_ threads
            (congrArg Scene.wrappers performed :) (congrArg Scene.wrappers remains :)
          show (s.perform step).2.recorder.Alike (t.perform { step with action := .poll j }).2.recorder
          rw [performed, remains]
          exact Recorder.Alike.refl _

theorem Shadowed.discard (h : s.Shadowed t left) (k : Nat) (action : step.action = .discard k)
    (suppressed : Bool) : (s.act step).2.Shadowed (t.after (step.left suppressed left)) left := by
  have threads := h.threads_left step suppressed
  have performed := congrArg Prod.snd (s.perform_discard action)
  have recorder : (s.act step).2.recorder = s.facing step := congrArg Scene.recorder performed
  unfold Step.left at threads ⊢
  simp only [action, Action.left] at threads ⊢
  cases number : newNumber? left k with
  | none =>
      rw [number] at threads
      refine h.set_passed none number ?_ threads (congrArg Scene.wrappers performed :) fun q hq => nomatch hq
      rw [recorder]
      exact h.alike step
  | some j =>
      rw [number] at threads
      refine h.set none number ?_ threads (congrArg Scene.wrappers performed :) rfl
      show (s.act step).2.recorder.Alike (t.facing { step with action := .discard j })
      rw [recorder, h.facing]
      exact Recorder.Alike.refl _

/-- Releasing a guard concerns no wrapper. -/
theorem wrappers_release (s : Scene) (r : Recorder) (thread g : Nat) :
    (s.release r thread g).wrappers = s.wrappers := by
  unfold Scene.release
  split <;> rfl

/-- Guards are acquired and released alike. -/
theorem Shadowed.guard (h : s.Shadowed t left) (guards : step.action.guards = true)
    (threads : (t.act step).2.threads = (s.act step).2.threads) : (s.act step).2.Shadowed (t.act step).2 left := by
  have same : t.facing step = s.facing step := h.facing step step.action
  rcases step.action.guards_cases with others | action | ⟨g, action⟩
  · cases others.symm.trans guards
  · refine h.of_recorder ?_ threads ?_ ?_
    · rw [recorder_act, recorder_act, s.perform_suppress action, t.perform_suppress action, same]
      exact Recorder.Alike.refl _
    · rw [wrappers_act, s.perform_suppress action]
      rfl
    · rw [wrappers_act, t.perform_suppress action]
      rfl
  · have list : t.guardsOf step.thread = s.guardsOf step.thread := by
      unfold guardsOf
      rw [h.threads]
    refine h.of_recorder ?_ threads ?_ ?_
    · rw [recorder_act, recorder_act, s.perform_release action, t.perform_release action, same]
      unfold Scene.release
      rw [list]
      cases (s.guardsOf step.thread)[g]?.join <;> exact Recorder.Alike.refl _
    · rw [wrappers_act, s.perform_release action, wrappers_release]
    · rw [wrappers_act, t.perform_release action, wrappers_release]

/-- **One step**, and what is left of it. -/
theorem Shadowed.act (h : s.Shadowed t left) (step : Step) :
    (s.act step).2.Shadowed (t.after (step.left (s.suppressedOn step.thread) left))
      (left ++ step.action.survival (s.suppressedOn step.thread)) := by
  have threads := h.threads_left step (s.suppressedOn step.thread)
  obtain ⟨thread, moment, refusal, action⟩ := step
  -- Only a producer that is handed over makes a wrapper.
  have others : ∀ {u v : Scene}, action.survival (s.suppressedOn thread) = [] → u.Shadowed v left →
      u.Shadowed v (left ++ action.survival (s.suppressedOn thread)) := by
    intro u v none shadowed
    rw [none, List.append_nil]
    exact shadowed
  -- What concerns neither wrappers nor guards is done by the same recorder, or left out.
  cases action with
  | wrap w => exact h.wrap w rfl
  | poll k => exact others rfl (h.poll k rfl _)
  | discard k => exact others rfl (h.discard k rfl _)
  | scalar probe value =>
      refine others rfl ?_
      simp only [Step.left, Action.left] at threads ⊢
      cases hs : s.suppressedOn thread with
      | true =>
          rw [hs] at threads
          exact h.unnoticed (congrArg s.withRecorder (if_pos hs)) threads
      | false =>
          rw [hs] at threads
          exact h.kept (fun r => r.recordScalar moment probe value) rfl rfl threads
  | value probe value =>
      refine others rfl ?_
      simp only [Step.left, Action.left] at threads ⊢
      cases hs : s.suppressedOn thread with
      | true =>
          rw [hs] at threads
          refine h.unnoticed (congrArg s.withRecorder ?_) threads
          exact Recorder.recordValue_of_suppressed moment probe value hs
      | false =>
          rw [hs] at threads
          refine h.kept (fun r => r.recordValue moment probe value) rfl ?_ threads
          exact congrArg t.withRecorder (Recorder.recordValue_silenced _ moment probe value)
  | register b => exact others rfl (h.kept (fun r => (r.registerBatch b).2) rfl rfl threads)
  | mark probes => exact others rfl (h.kept (fun r => r.markRecordable probes) rfl rfl threads)
  | latest typeName =>
      exact others rfl (h.kept (fun r => (r.latestInstance moment.heap typeName).2) rfl rfl threads)
  | suppress => exact others rfl (h.guard rfl threads)
  | release g => exact others rfl (h.guard rfl threads)

/-! ## Runs -/

/-- What is left of a step is nothing, or a step that records only if recording is not suppressed. -/
theorem left_cases (step : Step) (suppressed : Bool) (left : List Bool) :
    step.left suppressed left = [] ∨
      ∃ action, step.left suppressed left = [{ step with action := action }] ∧
        (action.records = true → suppressed = false) := by
  unfold Step.left
  cases what : step.action.left suppressed left with
  | none => exact .inl rfl
  | some action =>
      refine .inr ⟨action, rfl, fun records => ?_⟩
      cases hs : suppressed with
      | false => rfl
      | true =>
          -- While recording is suppressed, only what records nothing is left.
          subst hs
          cases old : step.action <;> simp [old, Action.left] at what
          case poll k =>
            obtain ⟨j, _, rfl⟩ := what
            cases records
          case discard k =>
            obtain ⟨j, _, rfl⟩ := what
            cases records
          all_goals
            subst what
            cases records

theorem unsuppressed_nil (start : Scene) : start.Unsuppressed [] := by
  intro pre step post split
  simp at split

theorem unsuppressed_cons {start : Scene} {step : Step} {rest : List Step}
    (now : step.action.records = true → start.suppressedOn step.thread = false)
    (later : (start.act step).2.Unsuppressed rest) : start.Unsuppressed (step :: rest) :=
  (forall_step_cons (fun s next => next.action.records = true → s.suppressedOn next.thread = false)
    start step rest).mpr ⟨now, later⟩

/-- **Both runs are told the same.** Only the step that asks is told something, and it is left. -/
theorem Shadowed.found (h : s.Shadowed t left) (step : Step) (rest : List Step) :
    t.found (step.left (s.suppressedOn step.thread) left ++ rest) =
      s.told step ++ (t.after (step.left (s.suppressedOn step.thread) left)).found rest := by
  unfold Step.left told
  cases action : step.action <;> simp only [Action.left]
  case scalar probe value | value probe value | wrap w =>
    cases s.suppressedOn step.thread <;> rfl
  case poll k | discard k =>
    cases newNumber? left k <;> rfl
  case latest typeName =>
    obtain ⟨refusal, flag, hr⟩ := h.recorder
    have same : (t.recorder.latestInstance step.moment.heap typeName).1 =
        (s.recorder.latestInstance step.moment.heap typeName).1 := by
      rw [hr]
      rfl
    simp only [Option.map, Option.toList, List.singleton_append, Scene.found, told, same]
    rfl
  all_goals rfl

/-- **Both runs keep pace**: what is left of a run leaves a shadow of the scene that the run leaves. -/
theorem Shadowed.after : ∀ (steps : List Step) {s t : Scene} {left : List Bool}, s.Shadowed t left →
    (∃ left', (s.after steps).Shadowed (t.after (s.unsuppressed left steps)) left') ∧
      t.found (s.unsuppressed left steps) = s.found steps ∧
      t.Unsuppressed (s.unsuppressed left steps) := by
  intro steps
  induction steps with
  | nil =>
      intro s t left h
      exact ⟨⟨left, h⟩, rfl, unsuppressed_nil t⟩
  | cons step rest ih =>
      intro s t left h
      obtain ⟨⟨left', shadowed⟩, found, unsuppressed⟩ := ih (h.act step)
      refine ⟨⟨left', ?_⟩, ?_, ?_⟩
      · unfold Scene.unsuppressed
        rw [after_append]
        exact shadowed
      · unfold Scene.unsuppressed
        rw [h.found, found]
        rfl
      · unfold Scene.unsuppressed
        rcases left_cases step (s.suppressedOn step.thread) left with nothing | ⟨action, something, active⟩
        · rw [nothing] at unsuppressed ⊢
          exact unsuppressed
        · rw [something] at unsuppressed ⊢
          exact unsuppressed_cons (fun records => (h.suppressedOn _).trans (active records)) unsuppressed

end Scene

/-! ## Invisibility -/

namespace Recorder

/-- **The same record**: log, ids, counters and sets, and the same answers from now on. -/
structure SameRecord (r r' : Recorder) : Prop where
  log : r'.sink.log = r.sink.log
  identities : r'.identities = r.identities
  stats : r'.stats = r.stats
  recordable : r'.recordable = r.recordable
  skipped : r'.skipped = r.skipped
  latest : ∀ heap typeName, (r'.latestInstance heap typeName).1 = (r.latestInstance heap typeName).1

theorem Alike.sameRecord {r r' : Recorder} (h : r.Alike r') : r.SameRecord r' := by
  obtain ⟨refusal, flag, rfl⟩ := h
  exact ⟨rfl, rfl, rfl, rfl, rfl, fun _ _ => rfl⟩

end Recorder

/-- **A call from serialization code leaves the flag as it found it.** -/
theorem NestedCall.suppressed_perform (m : Moment) (nested : NestedCall) (r : Recorder) :
    (nested.perform m r).suppressed = r.suppressed := by
  cases nested with
  | absent probe =>
      obtain ⟨es, logs, _⟩ := r.recordValue_logs m probe none
      exact logs.suppressed
  | value probe subject =>
      obtain ⟨es, logs, _⟩ := r.recordValue_logs m probe (some subject)
      exact logs.suppressed
  | scalar probe s =>
      obtain ⟨es, logs, _⟩ := r.recordScalar_logs m probe s
      exact logs.suppressed
  | producer probe typeName =>
      show (r.openCall m probe typeName).2.suppressed = r.suppressed
      unfold Recorder.openCall
      cases hs : r.suppressed with
      | true => exact hs
      | false => rfl

/-- **Suppressed recording is not seen.** What is left of a run without the calls made while recording is
    suppressed on their thread records the same: the same log, ids, counters and sets, and the same latest
    instances whenever they are asked for. It is a run that records nothing while recording is suppressed. And
    every call but those on guards leaves the flags of all threads as it found them; calls from serialization
    code leave their own. -/
theorem run_unseen (r : Recorder) (steps : List Step) :
    (r.scene.after steps).recorder.SameRecord
        (r.scene.after (r.scene.unsuppressed [] steps)).recorder ∧
      r.scene.found (r.scene.unsuppressed [] steps) = r.scene.found steps ∧
      r.scene.Unsuppressed (r.scene.unsuppressed [] steps) ∧
      (∀ (s : Scene) (step : Step), step.action.guards = false → ∀ thread,
        (s.act step).2.suppressedOn thread = s.suppressedOn thread) ∧
      ∀ (m : Moment) (nested : NestedCall) (r : Recorder),
        (nested.perform m r).suppressed = r.suppressed := by
  have start : r.scene.Shadowed r.scene [] :=
    ⟨Recorder.Alike.refl r, rfl, rfl, rfl, fun k p _ present => nomatch present⟩
  obtain ⟨⟨left, shadowed⟩, found, unsuppressed⟩ := Scene.Shadowed.after steps start
  exact ⟨shadowed.recorder.sameRecord, found, unsuppressed, Scene.suppressedOn_act,
    NestedCall.suppressed_perform⟩

/-- Two producers, the first of which is handed over while recording is suppressed: its wrapper and its poll
    are not left, and the second wrapper takes its number. -/
example :
    let w : Wrap := ⟨1, "app.F", .single, [], .pending, 0⟩
    let r := Recorder.withPolicy .capturing (.ofCategories fun _ => true) .empty
    (r.scene.unsuppressed [] (acceptedSteps [(0, .suppress), (0, .wrap w), (0, .release 0), (0, .wrap w),
      (0, .poll 0), (0, .poll 1)])).map (·.action) =
    [.suppress, .release 0, .wrap w, .poll 0] := rfl

end ProbeRecorder
