import Mathlib.Tactic.Push
import ProbeRecorder.Proofs.Program.History

/-!
# `ProbeRecorder.Proofs.Program.Guards` — how long recording is suppressed

A guard remembers whether recording was suppressed on its thread when it was acquired, and puts that back
when it is released. No other call leaves the flag different from how it found it, and none touches the flag
of another thread. So the flag says what the guard that was released last found, and that is whether guards
are still living only if guards are released in a suitable order: the oldest of those living must go last.

## Contents
- **Threads.** `ThreadState.act`, all that an action does to the thread that takes it (`Scene.threads_act`);
  every call but those on guards restores the flag (`suppressedOn_act`).
- **Living guards.** `ThreadState.Living`, `ThreadState.Oldest`, and what an action does to them.
- **Balance.** `ThreadState.Balanced`, kept by every release in a suitable order (`Balanced.act`).
- **Releases.** Each guard gives back what it found (`Scene.Restores`, `restores`).
- **Runs.** `Scene.SuppressedByGuards` and `Scene.KeepsOldest` come to the same on each thread
  (`run_suppressed_iff`); crossed guards (`crossed_guards_mislead`).
-/

namespace ProbeRecorder

/-! ## Threads -/

/-- A guard is acquired or released. -/
def Action.guards : Action → Bool
  | .suppress => true
  | .release _ => true
  | _ => false

/-- An action leaves guards alone, acquires one or releases one. -/
theorem Action.guards_cases (action : Action) :
    action.guards = false ∨ action = .suppress ∨ ∃ g, action = .release g := by
  cases action with
  | suppress => exact .inr (.inl rfl)
  | release g => exact .inr (.inr ⟨g, rfl⟩)
  | _ => exact .inl rfl

namespace ThreadState

/-- **What an action does to the thread that takes it.** -/
def act (t : ThreadState) : Action → ThreadState
  | .suppress => ⟨true, t.guards ++ [some t.suppressed]⟩
  | .release g =>
    match t.guards[g]?.join with
    | some before => ⟨before, t.guards.set g none⟩
    | none => t
  | _ => t

variable {t : ThreadState} {action : Action}

theorem act_of_not_guards (h : action.guards = false) : t.act action = t := by
  cases action with
  | suppress => cases h
  | release g => cases h
  | _ => rfl

/-- **Releasing a guard** that is still there. -/
theorem act_release {g : Nat} {before : Bool} (held : t.guards[g]? = some (some before)) :
    t.act (.release g) = ⟨before, t.guards.set g none⟩ := by
  unfold act
  simp only [held, Option.join_some]

/-- Releasing a guard again changes nothing. -/
theorem act_release_again {g : Nat} (gone : t.guards[g]?.join = none) : t.act (.release g) = t := by
  unfold act
  simp only [gone]

end ThreadState

namespace Scene

variable {s : Scene} {step : Step} {thread : Nat}

/-- While its thread is at work, every other call leaves the guards alone. -/
theorem threads_perform (s : Scene) (step : Step) (h : step.action.guards = false) :
    (s.perform step).2.threads = s.threads := by
  unfold perform
  cases action : step.action with
  | wrap w =>
      show (s.wrap (s.facing step) step.moment w).2.threads = s.threads
      unfold wrap
      generalize (s.facing step).openCall step.moment w.probe w.typeName = made
      obtain ⟨call, r⟩ := made
      cases call <;> rfl
  | poll k =>
      show (s.poll (s.facing step) step.moment k).2.threads = s.threads
      unfold poll
      cases s.wrapper? k <;> rfl
  | suppress =>
      rw [action] at h
      cases h
  | release g =>
      rw [action] at h
      cases h
  | _ => rfl

/-- A thread that has other guards gets its flag back. -/
theorem threads_putBack_withGuards (s : Scene) (thread : Nat) (guards : List (Option Bool)) :
    ((s.withGuards thread guards).putBack thread).threads =
      Function.update s.threads thread ⟨s.recorder.suppressed, guards⟩ := by
  show Function.update (Function.update s.threads thread ⟨(s.threads thread).suppressed, guards⟩) thread
    ⟨s.recorder.suppressed,
      (Function.update s.threads thread ⟨(s.threads thread).suppressed, guards⟩ thread).guards⟩ = _
  rw [Function.update_self, Function.update_idem]

/-- The recorder gives the flag back as it found it, however the code that a call runs ends. -/
theorem suppressed_act (s : Scene) (step : Step) (h : step.action.guards = false) :
    (s.act step).2.recorder.suppressed = s.suppressedOn step.thread := by
  obtain ⟨r, es, framed⟩ := s.act_framed step
  refine framed.logs.suppressed.trans (framed.suppressed ?_ ?_)
  · intro action
    rw [action] at h
    cases h
  · intro g action
    rw [action] at h
    cases h

/-- **What a step does to the threads**: something to its own at most. -/
theorem threads_act (s : Scene) (step : Step) :
    (s.act step).2.threads =
      Function.update s.threads step.thread ((s.threads step.thread).act step.action) := by
  rcases step.action.guards_cases with others | action | ⟨g, action⟩
  · show Function.update (s.perform step).2.threads step.thread
      { (s.perform step).2.threads step.thread with
        suppressed := (s.act step).2.recorder.suppressed } = _
    rw [s.threads_perform step others, s.suppressed_act step others, ThreadState.act_of_not_guards others]
    rfl
  · unfold act
    rw [s.perform_suppress action, action]
    exact threads_putBack_withGuards _ step.thread _
  · unfold act
    rw [s.perform_release action, action]
    unfold release
    cases held : (s.guardsOf step.thread)[g]?.join with
    | none =>
        rw [ThreadState.act_release_again held]
        rfl
    | some before =>
        rw [ThreadState.act_release (Option.join_eq_some_iff.mp held)]
        exact threads_putBack_withGuards _ step.thread _

/-- The thread that takes a step. -/
theorem threads_act_of_eq (own : step.thread = thread) :
    (s.act step).2.threads thread = (s.threads thread).act step.action := by
  subst own
  rw [threads_act, Function.update_self]

/-- All others. -/
theorem threads_act_of_ne (other : step.thread ≠ thread) : (s.act step).2.threads thread = s.threads thread := by
  rw [threads_act, Function.update_of_ne (Ne.symm other)]

/-- **Every call but those on guards** leaves the flags of all threads as it found them. -/
theorem suppressedOn_act (s : Scene) (step : Step) (h : step.action.guards = false) (thread : Nat) :
    (s.act step).2.suppressedOn thread = s.suppressedOn thread := by
  unfold suppressedOn
  rw [threads_act, ThreadState.act_of_not_guards h, Function.update_eq_self]

end Scene

/-! ## Living guards -/

namespace ThreadState

variable {t : ThreadState} {action : Action}

/-- **A guard lives** from when it is acquired until it is released. -/
def Living (t : ThreadState) (g : Nat) : Prop := (t.guards[g]?.join).isSome = true

/-- **The oldest of the living guards**; guards are numbered as they are acquired. -/
def Oldest (t : ThreadState) (g : Nat) : Prop := t.Living g ∧ ∀ other, t.Living other → g ≤ other

theorem living_iff {g : Nat} : t.Living g ↔ ∃ before, t.guards[g]? = some (some before) := by
  unfold Living
  simp only [Option.isSome_iff_exists, Option.join_eq_some_iff]

theorem lt_of_living {g : Nat} (h : t.Living g) : g < t.guards.length := by
  obtain ⟨before, h⟩ := living_iff.mp h
  exact (List.getElem?_eq_some_iff.mp h).1

/-- Some living guard is the oldest. -/
theorem exists_oldest {g : Nat} (h : t.Living g) : ∃ oldest, t.Oldest oldest := by
  induction g using Nat.strongRecOn with
  | ind g ih =>
      by_cases younger : ∀ other, t.Living other → g ≤ other
      · exact ⟨g, h, younger⟩
      · push Not at younger
        obtain ⟨other, living, older⟩ := younger
        exact ih other (by omega) living

/-- A guard that does not live is released for nothing. -/
theorem act_release_of_dead {g : Nat} (dead : ¬ t.Living g) : t.act (.release g) = t := by
  apply act_release_again
  unfold Living at dead
  rwa [Option.not_isSome_iff_eq_none] at dead

/-- A released guard is out of the way of the others. -/
theorem getElem?_guards_set {g other : Nat} {before : Bool} :
    (t.guards.set g none)[other]? = some (some before) ↔
      other ≠ g ∧ t.guards[other]? = some (some before) := by
  rw [List.getElem?_set]
  by_cases same : g = other
  · subst same
    simp
  · rw [if_neg same]
    exact ⟨fun h => ⟨Ne.symm same, h⟩, fun h => h.2⟩

/-- Who lives after a release. -/
theorem living_act_release {g other : Nat} (living : t.Living g) :
    (t.act (.release g)).Living other ↔ other ≠ g ∧ t.Living other := by
  obtain ⟨before, h⟩ := living_iff.mp living
  rw [living_iff, living_iff, act_release h]
  simp only [getElem?_guards_set]
  exact ⟨fun ⟨b, hne, hb⟩ => ⟨hne, b, hb⟩, fun ⟨hne, b, hb⟩ => ⟨b, hne, hb⟩⟩

/-- What a guard remembers is never changed: it is there until the guard is released. -/
theorem getElem?_guards_act (t : ThreadState) (action : Action) {g : Nat} {x : Option Bool}
    (h : t.guards[g]? = some x) :
    (t.act action).guards[g]? = some x ∨ (t.act action).guards[g]? = some none := by
  rcases action.guards_cases with others | rfl | ⟨g', rfl⟩
  · rw [act_of_not_guards others]
    exact .inl h
  · have bound : g < t.guards.length := (List.getElem?_eq_some_iff.mp h).1
    show (t.guards ++ _)[g]? = _ ∨ _
    rw [List.getElem?_append_left bound]
    exact .inl h
  · by_cases living : t.Living g'
    · obtain ⟨before, hbefore⟩ := living_iff.mp living
      rw [act_release hbefore, List.getElem?_set]
      by_cases same : g' = g
      · have bound : g' < t.guards.length := lt_of_living living
        rw [if_pos same, if_pos bound]
        exact .inr rfl
      · rw [if_neg same]
        exact .inl h
    · rw [act_release_of_dead living]
      exact .inl h

/-! ## Balance -/

/-- **A balanced thread**: recording is suppressed exactly while a guard lives, and a living guard found it
    suppressed exactly if an older one is living. -/
structure Balanced (t : ThreadState) : Prop where
  suppressed : t.suppressed = true ↔ ∃ g, t.Living g
  found : ∀ g before, t.guards[g]? = some (some before) → (before = true ↔ ∃ older < g, t.Living older)

/-- A living guard is released only if it is not the oldest one, or the last one. -/
def Releasable (t : ThreadState) (action : Action) : Prop :=
  ∀ g, action = .release g → t.Oldest g → ∀ other, t.Living other → other = g

theorem Balanced.suppress (h : t.Balanced) : (t.act .suppress).Balanced := by
  have guards : (t.act .suppress).guards = t.guards ++ [some t.suppressed] := rfl
  -- The guards from before are all older than the new one.
  have old : ∀ g, g < t.guards.length → ((t.act .suppress).Living g ↔ t.Living g) := by
    intro g hg
    unfold Living
    rw [guards, List.getElem?_append_left hg]
  constructor
  · refine ⟨fun _ => ⟨t.guards.length, ?_⟩, fun _ => rfl⟩
    rw [living_iff, guards]
    exact ⟨_, List.getElem?_concat_length⟩
  · intro g before hg
    rw [guards] at hg
    by_cases bound : g < t.guards.length
    · rw [List.getElem?_append_left bound] at hg
      rw [h.found g before hg]
      constructor
      · rintro ⟨older, hlt, living⟩
        exact ⟨older, hlt, (old older (Nat.lt_trans hlt bound)).mpr living⟩
      · rintro ⟨older, hlt, living⟩
        exact ⟨older, hlt, (old older (Nat.lt_trans hlt bound)).mp living⟩
    · have hlast : g = t.guards.length := by
        have := (List.getElem?_eq_some_iff.mp hg).1
        rw [List.length_append, List.length_singleton] at this
        omega
      rw [hlast, List.getElem?_concat_length] at hg
      obtain rfl : t.suppressed = before := Option.some.inj (Option.some.inj hg)
      rw [h.suppressed, hlast]
      constructor
      · rintro ⟨older, living⟩
        have hlt := lt_of_living living
        exact ⟨older, hlt, (old older hlt).mpr living⟩
      · rintro ⟨older, hlt, living⟩
        exact ⟨older, (old older hlt).mp living⟩

/-- Where another guard survives, the one that may be released is not the oldest. -/
theorem exists_older_of_releasable {g other : Nat} (releasable : t.Releasable (.release g)) (living : t.Living g)
    (alive : t.Living other) (survives : other ≠ g) : ∃ oldest < g, t.Oldest oldest := by
  obtain ⟨oldest, first⟩ := exists_oldest living
  have stays : oldest ≠ g := fun same => survives (releasable g rfl (same ▸ first) other alive)
  exact ⟨oldest, Nat.lt_of_le_of_ne (first.2 g living) stays, first⟩

theorem Balanced.release {g : Nat} (h : t.Balanced) (releasable : t.Releasable (.release g)) :
    (t.act (.release g)).Balanced := by
  by_cases living : t.Living g
  · obtain ⟨before, hbefore⟩ := living_iff.mp living
    constructor
    · have flag : (t.act (.release g)).suppressed = before := by rw [act_release hbefore]
      rw [flag, h.found g before hbefore]
      constructor
      · rintro ⟨older, hlt, alive⟩
        exact ⟨older, (living_act_release living).mpr ⟨Nat.ne_of_lt hlt, alive⟩⟩
      · rintro ⟨other, alive⟩
        obtain ⟨survives, alive⟩ := (living_act_release living).mp alive
        obtain ⟨oldest, hlt, first⟩ := exists_older_of_releasable releasable living alive survives
        exact ⟨oldest, hlt, first.1⟩
    · intro other found hother
      rw [act_release hbefore, getElem?_guards_set] at hother
      obtain ⟨survives, hother⟩ := hother
      rw [h.found other found hother]
      constructor
      · rintro ⟨older, hlt, alive⟩
        -- The oldest guard is older still than whoever was, and it stays.
        obtain ⟨oldest, hold, first⟩ := exists_older_of_releasable releasable living
          (living_iff.mpr ⟨found, hother⟩) survives
        have stays := (living_act_release living).mpr ⟨Nat.ne_of_lt hold, first.1⟩
        exact ⟨oldest, Nat.lt_of_le_of_lt (first.2 older alive) hlt, stays⟩
      · rintro ⟨older, hlt, stays⟩
        exact ⟨older, hlt, ((living_act_release living).mp stays).2⟩
  · rw [act_release_of_dead living]
    exact h

/-- **An action keeps the balance** unless it releases the oldest guard under a younger one. -/
theorem Balanced.act (h : t.Balanced) (releasable : t.Releasable action) : (t.act action).Balanced := by
  rcases action.guards_cases with others | rfl | ⟨g, rfl⟩
  · rw [act_of_not_guards others]
    exact h
  · exact h.suppress
  · exact h.release releasable

/-- **Releasing the oldest guard under a younger one** lets recording go on while the younger one lives. -/
theorem Balanced.misled (h : t.Balanced) (crossed : ¬ t.Releasable action) :
    (t.act action).suppressed = false ∧ ∃ g, (t.act action).Living g := by
  unfold Releasable at crossed
  push Not at crossed
  obtain ⟨g, rfl, oldest, other, alive, hne⟩ := crossed
  obtain ⟨before, hbefore⟩ := living_iff.mp oldest.1
  have nobody : ¬ before = true := by
    rw [h.found g before hbefore]
    rintro ⟨older, hlt, living⟩
    have hle := oldest.2 older living
    omega
  refine ⟨?_, other, (living_act_release oldest.1).mpr ⟨hne, alive⟩⟩
  rw [act_release hbefore]
  exact Bool.eq_false_iff.mpr nobody

end ThreadState

namespace Scene

variable {s : Scene} {step : Step} {thread : Nat}

/-! ## Releases -/

theorem getElem?_guardsOf_after {g : Nat} : ∀ (steps : List Step) {s : Scene} {x : Option Bool},
    (s.guardsOf thread)[g]? = some x →
      ((s.after steps).guardsOf thread)[g]? = some x ∨ ((s.after steps).guardsOf thread)[g]? = some none := by
  intro steps
  induction steps with
  | nil => exact fun h => .inl h
  | cons step rest ih =>
      intro s x h
      have now : ((s.act step).2.guardsOf thread)[g]? = some x ∨
          ((s.act step).2.guardsOf thread)[g]? = some none := by
        unfold guardsOf
        by_cases own : step.thread = thread
        · rw [threads_act_of_eq own]
          exact (s.threads thread).getElem?_guards_act step.action h
        · rw [threads_act_of_ne own]
          exact .inl h
      rcases now with kept | released
      · exact ih kept
      · -- Released once, it is gone for the rest of the run.
        have gone := ih released
        rw [or_self] at gone
        exact .inr gone

/-- As long as a guard lives, it remembers the same. -/
theorem guardsOf_after_of_living {g : Nat} {before : Bool} (steps : List Step)
    (h : (s.guardsOf thread)[g]? = some (some before)) (living : ((s.after steps).threads thread).Living g) :
    ((s.after steps).guardsOf thread)[g]? = some (some before) := by
  rcases getElem?_guardsOf_after steps h with kept | released
  · exact kept
  · obtain ⟨_, held⟩ := ThreadState.living_iff.mp living
    cases held.symm.trans released

/-- A new guard remembers the flag of its thread. -/
theorem guardsOf_act_suppress (acquired : step.action = .suppress) :
    (s.act step).2.guardsOf step.thread = s.guardsOf step.thread ++ [some (s.suppressedOn step.thread)] := by
  unfold guardsOf
  rw [threads_act_of_eq rfl, acquired]
  rfl

/-- **Each guard gives back what it found** on its thread, in whatever order guards are released. -/
def Restores (start : Scene) (steps : List Step) : Prop :=
  ∀ pre acquire mid drop post, steps = pre ++ acquire :: (mid ++ drop :: post) →
    acquire.action = .suppress → drop.thread = acquire.thread →
    drop.action = .release ((start.after pre).guardsOf acquire.thread).length →
    ((start.after (pre ++ acquire :: mid)).threads acquire.thread).Living
      ((start.after pre).guardsOf acquire.thread).length →
    (start.after (pre ++ acquire :: (mid ++ [drop]))).suppressedOn acquire.thread =
      (start.after pre).suppressedOn acquire.thread

theorem restores (start : Scene) (steps : List Step) : start.Restores steps := by
  intro pre acquire mid drop post _ acquired own dropped living
  have remembers : (((start.after pre).act acquire).2.guardsOf acquire.thread)[
      ((start.after pre).guardsOf acquire.thread).length]? =
      some (some ((start.after pre).suppressedOn acquire.thread)) := by
    rw [guardsOf_act_suppress acquired, List.getElem?_concat_length]
  have run : start.after (pre ++ acquire :: mid) = ((start.after pre).act acquire).2.after mid :=
    after_append pre (acquire :: mid) start
  have split : start.after (pre ++ acquire :: (mid ++ [drop])) =
      ((start.after (pre ++ acquire :: mid)).act drop).2 := by
    rw [← List.cons_append, ← List.append_assoc, after_append _ [drop]]
    rfl
  rw [run] at living
  have held := guardsOf_after_of_living mid remembers living
  unfold suppressedOn
  rw [split, run, threads_act_of_eq own, dropped, ThreadState.act_release held]
  rfl

/-! ## Runs -/

/-- **Suppressed exactly while a guard lives** on a thread, at every moment of a run. -/
def SuppressedByGuards (start : Scene) (thread : Nat) (steps : List Step) : Prop :=
  ∀ pre post, steps = pre ++ post →
    ((start.after pre).suppressedOn thread = true ↔ ∃ g, ((start.after pre).threads thread).Living g)

/-- **The oldest living guard of a thread is kept** while others live, throughout a run. Guards released in
    the reverse order of their acquisition are a case of this. -/
def KeepsOldest (start : Scene) (thread : Nat) (steps : List Step) : Prop :=
  ∀ pre step post, steps = pre ++ step :: post → step.thread = thread →
    ((start.after pre).threads thread).Releasable step.action

theorem suppressedByGuards_cons (s : Scene) (thread : Nat) (step : Step) (rest : List Step) :
    s.SuppressedByGuards thread (step :: rest) ↔
      (s.suppressedOn thread = true ↔ ∃ g, (s.threads thread).Living g) ∧
        (s.act step).2.SuppressedByGuards thread rest := by
  constructor
  · intro h
    refine ⟨h [] (step :: rest) rfl, fun pre post split => ?_⟩
    exact h (step :: pre) post (by rw [split, List.cons_append])
  · rintro ⟨now, later⟩ pre post split
    cases pre with
    | nil => exact now
    | cons first pre =>
        obtain ⟨rfl, tail⟩ := List.cons.inj split
        exact later pre post tail

/-- What holds of every step of a run holds of the first, and then of the others. -/
theorem forall_step_cons (holds : Scene → Step → Prop) (s : Scene) (step : Step) (rest : List Step) :
    (∀ pre next post, step :: rest = pre ++ next :: post → holds (s.after pre) next) ↔
      holds s step ∧
        ∀ pre next post, rest = pre ++ next :: post → holds ((s.act step).2.after pre) next := by
  constructor
  · intro h
    refine ⟨h [] step rest rfl, fun pre next post split => ?_⟩
    exact h (step :: pre) next post (by rw [split, List.cons_append])
  · rintro ⟨now, later⟩ pre next post split
    cases pre with
    | nil =>
        obtain ⟨rfl, _⟩ := List.cons.inj split
        exact now
    | cons first pre =>
        obtain ⟨rfl, tail⟩ := List.cons.inj split
        exact later pre next post tail

theorem keepsOldest_cons (s : Scene) (thread : Nat) (step : Step) (rest : List Step) :
    s.KeepsOldest thread (step :: rest) ↔
      (step.thread = thread → (s.threads thread).Releasable step.action) ∧
        (s.act step).2.KeepsOldest thread rest :=
  forall_step_cons (fun s next => next.thread = thread → (s.threads thread).Releasable next.action) s step rest

/-- **Runs of a balanced thread.** Steps of other threads do not touch its balance. -/
theorem suppressed_iff_of_balanced : ∀ {steps : List Step} {s : Scene}, (s.threads thread).Balanced →
    (s.SuppressedByGuards thread steps ↔ s.KeepsOldest thread steps) := by
  intro steps
  induction steps with
  | nil =>
      intro s h
      constructor
      · intro _ pre step post split
        simp at split
      · intro _ pre post split
        obtain ⟨rfl, _⟩ := List.nil_eq_append_iff.mp split
        exact h.suppressed
  | cons step rest ih =>
      intro s h
      rw [suppressedByGuards_cons, keepsOldest_cons]
      by_cases releasable : step.thread = thread → (s.threads thread).Releasable step.action
      · have balanced : ((s.act step).2.threads thread).Balanced := by
          by_cases own : step.thread = thread
          · rw [threads_act_of_eq own]
            exact h.act (releasable own)
          · rw [threads_act_of_ne own]
            exact h
        have next := ih balanced
        exact ⟨fun ⟨_, later⟩ => ⟨releasable, next.mp later⟩, fun ⟨_, later⟩ => ⟨h.suppressed, next.mpr later⟩⟩
      · -- The first crossed release tells both sides.
        obtain ⟨own, crossed⟩ := Classical.not_imp.mp releasable
        obtain ⟨flag, living⟩ := h.misled crossed
        rw [← threads_act_of_eq own] at flag living
        constructor
        · rintro ⟨_, later⟩
          have now := (later [] rest rfl).mpr living
          cases now.symm.trans flag
        · exact fun ⟨now, _⟩ => absurd now releasable

theorem balanced_scene {o : RecorderOptions} {sink : Sink} {r : Recorder}
    (built : Recorder.build o sink = .ok r) (thread : Nat) : (r.scene.threads thread).Balanced := by
  obtain ⟨policy, rfl⟩ := Recorder.eq_withPolicy_of_build built
  constructor
  · constructor
    · exact fun h => nomatch h
    · rintro ⟨g, living⟩
      cases ThreadState.lt_of_living living
  · intro g before h
    cases (List.getElem?_eq_some_iff.mp h).1

end Scene

/-- **How long guards suppress recording.** In every run, each guard gives back what it found on its thread.
    So recording is suppressed on a thread exactly while one of its guards lives if, and only if, its oldest
    living guard is never released while a younger one lives. -/
theorem run_suppressed_iff {o : RecorderOptions} {sink : Sink} {r : Recorder}
    (built : Recorder.build o sink = .ok r) (steps : List Step) :
    r.scene.Restores steps ∧
      ∀ thread, r.scene.SuppressedByGuards thread steps ↔ r.scene.KeepsOldest thread steps :=
  ⟨r.scene.restores steps, fun thread => Scene.suppressed_iff_of_balanced (Scene.balanced_scene built thread)⟩

/-- Three guards of one thread, of which the oldest goes last and the other two in the order of their
    acquisition; meanwhile another thread has a guard of its own. -/
def nestedGuards : List Step :=
  [(0, .suppress), (1, .suppress), (0, .suppress), (0, .suppress), (0, .release 1), (1, .release 0),
    (0, .release 2), (0, .release 0)].map fun (thread, action) =>
      ⟨thread, ⟨.empty, ⟨0, "main"⟩, 0⟩, fun _ => none, action⟩

theorem run_suppressed_iff_nested :
    ∃ r, Recorder.build .capturing .empty = .ok r ∧
      ((List.range 9).map fun n => (r.scene.after (nestedGuards.take n)).suppressedOn 0) =
        [false, true, true, true, true, true, true, true, false] ∧
      ((List.range 9).map fun n => (r.scene.after (nestedGuards.take n)).suppressedOn 1) =
        [false, false, true, true, true, true, false, false, false] ∧
      r.scene.Restores nestedGuards ∧
      ∀ thread, r.scene.SuppressedByGuards thread nestedGuards ↔ r.scene.KeepsOldest thread nestedGuards :=
  ⟨_, Recorder.build_capturing .empty, by decide, by decide,
    run_suppressed_iff (Recorder.build_capturing .empty) nestedGuards⟩

/-- Two guards, of which the older is released first. -/
def crossedGuards : List Step := acceptedSteps
  [(0, .suppress), (0, .suppress), (0, .release 0), (0, .release 1)]

/-- **Crossed guards mislead**: recording goes on while the second guard lives, and is suppressed for good
    once both are gone. -/
theorem crossed_guards_mislead :
    ∃ r, Recorder.build .capturing .empty = .ok r ∧ ¬ r.scene.SuppressedByGuards 0 crossedGuards ∧
      (r.scene.after (crossedGuards.take 3)).suppressedOn 0 = false ∧
      ((r.scene.after (crossedGuards.take 3)).threads 0).Living 1 ∧
      (r.scene.after crossedGuards).suppressedOn 0 = true ∧
      ∀ g, ¬ ((r.scene.after crossedGuards).threads 0).Living g := by
  refine ⟨_, Recorder.build_capturing .empty, fun suppressed => ?_, rfl, rfl, rfl, fun g living => ?_⟩
  · have now := (suppressed (crossedGuards.take 3) (crossedGuards.drop 3) rfl).mpr ⟨1, rfl⟩
    cases now
  · have bound := ThreadState.lt_of_living living
    match g, bound with
    | 0, _ => cases living
    | 1, _ => cases living

end ProbeRecorder
