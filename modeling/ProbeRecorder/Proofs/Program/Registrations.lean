import ProbeRecorder.Proofs.Program.History
import ProbeRecorder.Proofs.Recorder.Registration

/-!
# `ProbeRecorder.Proofs.Program.Registrations` — every class is registered once

A class is marked before the sink is asked, and the mark is taken away when the sink refuses. So a class is
marked exactly if the sink took a registration of it: what is registered again comes to nothing, and what
was refused may be registered later.

## Contents
- **Steps.** `Scene.registration?`, the registration that the sink takes in a step, and `Step.Registers`.
- **Classes.** What a call of `registerBatch` does in a step (`Scene.Registered`) and answers
  (`registerBatch_error_iff`), and so what a step does to the marked classes (`mem_classes_act`).
- **Log.** The registrations that a step brings to the log (`weaves_turn`).
- **Runs.** `Scene.registrations`; each class stands there once (`registrations_fresh`), and it stands there
  if some step registers it (`mem_classes_after`).
- **Once.** `Scene.RegistersOnce`, of every run of a recorder that is built (`run_registersOnce`).
-/

namespace ProbeRecorder

/-! ## Steps -/

/-- **A batch of the class is registered** in the step, and the sink does not refuse it; an empty one
    registers nothing. -/
def Step.Registers (step : Step) (discards : Bool) (c : ClassId) : Prop :=
  ∃ b, step.action = .register b ∧ b.classId = c ∧ b.probes ≠ [] ∧
    (discards = true ∨ step.refusal .register = none)

namespace Scene

/-- **The registration that the sink takes** in a step; it is not asked about a class that is known. -/
def registration? (s : Scene) (step : Step) : Option (ClassId × List ProbeId) :=
  match step.action with
  | .register b =>
    if b.probes ≠ [] ∧ b.classId ∉ s.recorder.classes ∧
        (s.recorder.discards = true ∨ step.refusal .register = none) then
      some (b.classId, b.probeIds)
    else none
  | _ => none

variable {s : Scene} {step : Step}

/-! ## Classes -/

/-- Only registrations change the marked classes. -/
theorem classes_act (s : Scene) (step : Step) (h : ∀ b, step.action ≠ .register b) :
    (s.act step).2.recorder.classes = s.recorder.classes := by
  obtain ⟨r, es, framed⟩ := s.act_framed step
  exact framed.logs.classes.trans (framed.classes h)

/-- **What a call of `registerBatch` does** in a step: nothing, or the batch is taken over and its class
    marked, or the sink refuses it. -/
inductive Registered (s : Scene) (step : Step) (b : WeaveBatch) : Except RecorderError Unit × Recorder → Prop where
  | unchanged (known : b.probes = [] ∨ b.classId ∈ s.recorder.classes) (none : s.registration? step = none) :
      Registered s step b (.ok (), s.facing step)
  | taken {r : Recorder} (nonempty : b.probes ≠ []) (new : b.classId ∉ s.recorder.classes)
      (takes : s.recorder.discards = true ∨ step.refusal .register = none)
      (some : s.registration? step = some (b.classId, b.probeIds)) (adopted : (s.facing step).Adopted b r)
      (log : r.sink.log = s.recorder.sink.log ++
        if s.recorder.discards then [] else [.weave b.classId b.probeIds]) : Registered s step b (.ok (), r)
  | refused {r : Recorder} (nonempty : b.probes ≠ []) (new : b.classId ∉ s.recorder.classes)
      (keeps : s.recorder.discards = false) (cause : RecorderError)
      (refuses : step.refusal .register = some cause) (none : s.registration? step = none)
      (left : (s.facing step).Refused b r) :
      Registered s step b (.error (Recorder.refusedRegistration b cause), r)

/-- **Every call of `registerBatch`** does one of these. -/
theorem registerBatch_registered {b : WeaveBatch} (action : step.action = .register b) :
    s.Registered step b ((s.facing step).registerBatch b) := by
  have registration : s.registration? step =
      if b.probes ≠ [] ∧ b.classId ∉ s.recorder.classes ∧
          (s.recorder.discards = true ∨ step.refusal .register = none) then
        some (b.classId, b.probeIds)
      else none := by
    unfold registration?
    rw [action]
  by_cases known : b.probes = [] ∨ b.classId ∈ s.recorder.classes
  · have same := Recorder.registerBatch_of_known (r := s.facing step) b
      (known.imp_left b.anchor?_eq_none_iff.mpr)
    rw [same]
    exact .unchanged known (registration.trans (if_neg fun h => known.elim h.1 h.2.1))
  · obtain ⟨nonempty, new⟩ := not_or.mp known
    obtain ⟨anchor, first⟩ := WeaveBatch.exists_anchor nonempty
    by_cases takes : s.recorder.discards = true ∨ step.refusal .register = none
    · obtain ⟨ok, adopted⟩ := Recorder.registerBatch_adopted (r := s.facing step) first new takes
      have kept : (s.facing step).kept .register (.weave b.classId b.probeIds) =
          if s.recorder.discards then [] else [.weave b.classId b.probeIds] := by
        have sink : (s.facing step).sink.refusal = step.refusal := rfl
        have discards : (s.facing step).discards = s.recorder.discards := rfl
        unfold Recorder.kept
        rw [sink, discards]
        rcases takes with takes | takes <;> rw [takes] <;> rfl
      have log := (Recorder.registerBatch_of_new (r := s.facing step) b first new).log
      rw [kept] at log
      generalize (s.facing step).registerBatch b = answer at ok adopted log
      obtain ⟨reply, r⟩ := answer
      subst ok
      exact .taken nonempty new takes (registration.trans (if_pos ⟨nonempty, new, takes⟩)) adopted log
    · have untaken := registration.trans (if_neg fun h => takes h.2.2)
      obtain ⟨keeps, refuses⟩ := not_or.mp takes
      obtain ⟨cause, refuses⟩ := Option.ne_none_iff_exists'.mp refuses
      have error := Recorder.registerBatch_error (r := s.facing step) first new
        ((Bool.not_eq_true _).mp keeps) refuses
      generalize found : (s.facing step).registerBatch b = answer at error
      obtain ⟨reply, r⟩ := answer
      subst error
      obtain ⟨_, _, _, left, _⟩ := Recorder.registerBatch_refused found
      exact .refused nonempty new ((Bool.not_eq_true _).mp keeps) cause refuses untaken left

section Answers

variable {b : WeaveBatch} (action : step.action = .register b)

include action

/-- An empty batch, or one of a class that is known, changes nothing. -/
theorem registerBatch_unchanged (known : b.probes = [] ∨ b.classId ∈ s.recorder.classes) :
    (s.facing step).registerBatch b = (.ok (), s.facing step) ∧ s.registration? step = none := by
  have registered := registerBatch_registered (s := s) action
  generalize (s.facing step).registerBatch b = answer at registered
  cases registered with
  | unchanged _ none => exact ⟨rfl, none⟩
  | taken nonempty new _ _ _ _ => exact absurd known (not_or.mpr ⟨nonempty, new⟩)
  | refused nonempty new _ _ _ _ _ => exact absurd known (not_or.mpr ⟨nonempty, new⟩)

/-- Any other batch is registered if the sink takes it. -/
theorem registerBatch_taken (nonempty : b.probes ≠ []) (new : b.classId ∉ s.recorder.classes)
    (takes : s.recorder.discards = true ∨ step.refusal .register = none) :
    ((s.facing step).registerBatch b).1 = .ok () ∧ s.registration? step = some (b.classId, b.probeIds) := by
  have registered := registerBatch_registered (s := s) action
  generalize (s.facing step).registerBatch b = answer at registered
  cases registered with
  | unchanged known _ => exact absurd known (not_or.mpr ⟨nonempty, new⟩)
  | taken _ _ _ some _ _ => exact ⟨rfl, some⟩
  | refused _ _ keeps cause refuses _ _ =>
      rw [keeps, refuses] at takes
      simp at takes

/-- An error is the sink's. -/
theorem registerBatch_error_iff (e : RecorderError) :
    ((s.facing step).registerBatch b).1 = .error e ↔
      s.recorder.discards = false ∧ b.probes ≠ [] ∧ b.classId ∉ s.recorder.classes ∧
        ∃ cause, step.refusal .register = some cause ∧ e = Recorder.refusedRegistration b cause := by
  have registered := registerBatch_registered (s := s) action
  generalize (s.facing step).registerBatch b = answer at registered
  cases registered with
  | unchanged known _ =>
      refine ⟨fun h => (nomatch h), ?_⟩
      rintro ⟨_, nonempty, new, _⟩
      exact absurd known (not_or.mpr ⟨nonempty, new⟩)
  | taken _ _ takes _ _ _ =>
      refine ⟨fun h => (nomatch h), ?_⟩
      rintro ⟨keeps, _, _, cause, refuses, _⟩
      rw [keeps, refuses] at takes
      simp at takes
  | refused nonempty new keeps cause refuses _ _ =>
      refine ⟨fun h => ⟨keeps, nonempty, new, cause, refuses, (Except.error.inj h).symm⟩, ?_⟩
      rintro ⟨_, _, _, cause', refuses', rfl⟩
      rw [refuses] at refuses'
      rw [Option.some.inj refuses']

/-- After an error nothing is registered. -/
theorem registration?_of_error {e : RecorderError} (error : ((s.facing step).registerBatch b).1 = .error e) :
    s.registration? step = none := by
  have registered := registerBatch_registered (s := s) action
  generalize (s.facing step).registerBatch b = answer at registered error
  cases registered with
  | unchanged _ none => exact none
  | taken _ _ _ _ _ _ => cases error
  | refused _ _ _ _ _ none _ => exact none

end Answers

/-- A step that registers nothing. -/
theorem registration?_eq_none (h : ∀ b, step.action ≠ .register b) : s.registration? step = none := by
  unfold registration?
  cases action : step.action with
  | register b => exact absurd action (h b)
  | _ => rfl

/-- **A class is marked** by a step in which the sink takes a registration of it. -/
theorem mem_classes_registration (s : Scene) (step : Step) (c : ClassId) :
    c ∈ (s.act step).2.recorder.classes ↔
      c ∈ s.recorder.classes ∨ c ∈ (s.registration? step).toList.map Prod.fst := by
  by_cases register : ∃ b, step.action = .register b
  · obtain ⟨b, action⟩ := register
    have registered := registerBatch_registered (s := s) action
    rw [act_register action]
    show c ∈ ((s.facing step).registerBatch b).2.classes ↔ _
    generalize (s.facing step).registerBatch b = answer at registered
    cases registered with
    | unchanged _ none =>
        rw [none]
        simp [facing]
    | taken _ _ _ some adopted _ =>
        rw [some, adopted.classes]
        simp [facing, or_comm]
    | refused _ _ _ _ _ none left =>
        rw [none, left.state]
        simp [facing]
  · have none := not_exists.mp register
    rw [s.classes_act step none, registration?_eq_none none]
    simp

/-- The same, as the program sees it: **a class is marked** by a step that registers it. -/
theorem mem_classes_act (s : Scene) (step : Step) (c : ClassId) :
    c ∈ (s.act step).2.recorder.classes ↔
      c ∈ s.recorder.classes ∨ step.Registers s.recorder.discards c := by
  rw [mem_classes_registration]
  by_cases register : ∃ b, step.action = .register b
  · obtain ⟨b, action⟩ := register
    have registers : step.Registers s.recorder.discards c ↔ b.classId = c ∧ b.probes ≠ [] ∧
        (s.recorder.discards = true ∨ step.refusal .register = none) := by
      simp only [Step.Registers, action, Action.register.injEq, exists_eq_left']
    rw [registers]
    have registered := registerBatch_registered (s := s) action
    generalize (s.facing step).registerBatch b = answer at registered
    cases registered with
    | unchanged known none =>
        rw [none]
        constructor
        · exact fun h => .inl (h.resolve_right (by simp))
        · rintro (old | ⟨rfl, nonempty, _⟩)
          · exact .inl old
          · exact .inl (known.resolve_left nonempty)
    | taken nonempty _ takes some _ _ =>
        rw [some]
        simp only [Option.toList_some, List.map_cons, List.map_nil, List.mem_singleton]
        exact or_congr_right ⟨fun h => ⟨h.symm, nonempty, takes⟩, fun h => h.1.symm⟩
    | refused _ _ keeps cause refuses none _ =>
        rw [none, keeps, refuses]
        simp
  · have none := not_exists.mp register
    have unregistered : ¬ step.Registers s.recorder.discards c := fun ⟨b, action, _⟩ => none b action
    rw [registration?_eq_none none]
    simp [unregistered]

/-- The sink is not asked about a class that is marked. -/
theorem not_mem_classes_of_registration {c : ClassId}
    (h : c ∈ (s.registration? step).toList.map Prod.fst) : c ∉ s.recorder.classes := by
  unfold registration? at h
  split at h
  · split at h
    · rename_i new
      rw [List.mem_singleton.mp h]
      exact new.2.1
    · cases h
  · cases h

/-! ## Log -/

/-- Only a step that registers brings a registration to the log. -/
theorem Effect.weaves {reply : Reply} {es : List Entry} {t : Scene} (h : s.Effect step reply es t)
    (none : ∀ b, step.action ≠ .register b) : weavesOf es = [] := by
  have ordinary : Recorder.AtMostOrdinary es → weavesOf es = [] := by
    refine fun only => weavesOf_eq_nil fun e he => ?_
    obtain ⟨stamp, probe, value, payload, rfl⟩ := only e he
    exact ⟨_, rfl⟩
  cases h with
  | aside _ _ only => exact ordinary only
  | dropped _ _ _ => rfl
  | passed _ _ _ _ only => exact ordinary only
  | opened _ _ _ _ _ _ => exact weavesOf_eq_nil fun e he => ⟨_, Recorder.mem_kept he⟩
  | polled _ p _ answer _ _ _ _ _ =>
      refine weavesOf_eq_nil fun e he => ?_
      unfold Recorder.reported at he
      split at he
      · exact ⟨_, Recorder.mem_kept he⟩
      · cases he
  | woven b _ action _ _ _ _ _ => exact absurd action (none b)

/-- **What a step brings to the log** of registrations is what the sink takes in it. -/
theorem weaves_turn (s : Scene) (step : Step) :
    weavesOf (s.turn step).written =
      if s.recorder.discards then [] else (s.registration? step).toList := by
  by_cases register : ∃ b, step.action = .register b
  · obtain ⟨b, action⟩ := register
    have written : ∀ es, (s.act step).2.recorder.sink.log = s.recorder.sink.log ++ es →
        (s.turn step).written = es := fun _ => written_of_log
    rw [act_register action] at written
    have registered := registerBatch_registered (s := s) action
    generalize (s.facing step).registerBatch b = answer at registered written
    cases registered with
    | unchanged _ none =>
        rw [written [] (List.append_nil _).symm, none]
        split <;> rfl
    | taken _ _ _ some _ log =>
        rw [written _ log, some]
        split <;> rfl
    | refused _ _ _ _ _ none left =>
        have same := congrArg (fun r : Recorder => r.sink.log) left.state
        rw [written [] (same.trans (List.append_nil _).symm), none]
        split <;> rfl
  · have none := not_exists.mp register
    rw [(s.turn_effect step).2.weaves none, registration?_eq_none none]
    split <;> rfl

/-! ## Runs -/

/-- **The registrations that the sink takes** in a run, in order. -/
def registrations (s : Scene) : List Step → List (ClassId × List ProbeId)
  | [] => []
  | step :: rest => (s.registration? step).toList ++ (s.act step).2.registrations rest

/-- **The registrations in the log** of a run are those that the sink took. -/
theorem weaves_history : ∀ (steps : List Step) (s : Scene),
    weavesOf (logOf (s.history steps)) = if s.recorder.discards then [] else s.registrations steps := by
  intro steps
  induction steps with
  | nil =>
      intro s
      split <;> rfl
  | cons step rest ih =>
      intro s
      rw [history_cons, logOf_cons, weavesOf_append, s.weaves_turn, ih, (s.turn_effect step).1.discards]
      split <;> rfl

theorem registrations_append (pre post : List Step) : ∀ s : Scene,
    s.registrations (pre ++ post) = s.registrations pre ++ (s.after pre).registrations post := by
  induction pre with
  | nil => exact fun s => rfl
  | cons step rest ih =>
      intro s
      show (s.registration? step).toList ++ (s.act step).2.registrations (rest ++ post) = _
      rw [ih, ← List.append_assoc]
      rfl

/-- **The marked classes** are those that the sink took a registration of. -/
theorem mem_classes_registrations {c : ClassId} : ∀ (steps : List Step) (s : Scene),
    c ∈ (s.after steps).recorder.classes ↔
      c ∈ s.recorder.classes ∨ c ∈ (s.registrations steps).map Prod.fst := by
  intro steps
  induction steps with
  | nil =>
      intro s
      simp [registrations, after]
  | cons step rest ih =>
      intro s
      show c ∈ ((s.act step).2.after rest).recorder.classes ↔ _
      rw [ih, mem_classes_registration, registrations, List.map_append, List.mem_append, or_assoc]

/-- **The marked classes** are those that some step registers. -/
theorem mem_classes_after {c : ClassId} : ∀ (steps : List Step) (s : Scene),
    c ∈ (s.after steps).recorder.classes ↔
      c ∈ s.recorder.classes ∨ ∃ step ∈ steps, step.Registers s.recorder.discards c := by
  intro steps
  induction steps with
  | nil =>
      intro s
      simp [after]
  | cons step rest ih =>
      intro s
      show c ∈ ((s.act step).2.after rest).recorder.classes ↔ _
      rw [ih, mem_classes_act, (s.turn_effect step).1.discards, or_assoc]
      simp only [List.mem_cons, exists_eq_or_imp]

/-- **No class is registered twice**, and none that was marked before. -/
theorem registrations_fresh : ∀ (steps : List Step) (s : Scene),
    ((s.registrations steps).map Prod.fst).Nodup ∧
      ∀ c ∈ (s.registrations steps).map Prod.fst, c ∉ s.recorder.classes := by
  intro steps
  induction steps with
  | nil => exact fun s => ⟨List.nodup_nil, fun _ h => nomatch h⟩
  | cons step rest ih =>
      intro s
      obtain ⟨nodup, fresh⟩ := ih (s.act step).2
      rw [registrations, List.map_append]
      refine ⟨List.nodup_append.mpr ⟨?_, nodup, ?_⟩, ?_⟩
      · cases s.registration? step <;> simp
      · -- What is registered in this step is marked afterwards.
        rintro c first _ later rfl
        exact fresh c later ((s.mem_classes_registration step c).mpr (.inr first))
      · intro c h
        rcases List.mem_append.mp h with first | later
        · exact not_mem_classes_of_registration first
        · exact fun old => fresh c later ((s.mem_classes_registration step c).mpr (.inl old))

/-! ## Once -/

/-- **Every class is registered at most once** in a run from some scene, and it is if the sink takes it. -/
structure RegistersOnce (start : Scene) (steps : List Step) : Prop where
  logged : start.recorder.discards = false →
    weavesOf (logOf (start.history steps)) = start.registrations steps
  once : ((start.registrations steps).map Prod.fst).Nodup
  registered : ∀ c, c ∈ (start.registrations steps).map Prod.fst ↔
    ∃ step ∈ steps, step.Registers start.recorder.discards c
  /-- The recorder knows at any time which classes these are. -/
  marked : ∀ pre post c, steps = pre ++ post →
    (c ∈ (start.after pre).recorder.classes ↔ c ∈ (start.registrations pre).map Prod.fst)
  /-- An empty batch, and a class that is registered, change nothing, whatever the batch says. -/
  unchanged : ∀ pre step post b, steps = pre ++ step :: post → step.action = .register b →
    (b.probes = [] ∨ b.classId ∈ (start.registrations pre).map Prod.fst) →
    ((start.after pre).facing step).registerBatch b = (.ok (), (start.after pre).facing step) ∧
      start.registrations (pre ++ [step]) = start.registrations pre
  /-- Any other batch is registered if the sink takes it, whatever was refused before. -/
  taken : ∀ pre step post b, steps = pre ++ step :: post → step.action = .register b → b.probes ≠ [] →
    b.classId ∉ (start.registrations pre).map Prod.fst →
    (start.recorder.discards = true ∨ step.refusal .register = none) →
    (((start.after pre).facing step).registerBatch b).1 = .ok () ∧
      start.registrations (pre ++ [step]) = start.registrations pre ++ [(b.classId, b.probeIds)]
  /-- An error is the sink's, and the class is not registered. -/
  refused : ∀ pre step post b e, steps = pre ++ step :: post → step.action = .register b →
    ((((start.after pre).facing step).registerBatch b).1 = .error e ↔
      start.recorder.discards = false ∧ b.probes ≠ [] ∧
        b.classId ∉ (start.registrations pre).map Prod.fst ∧
        ∃ cause, step.refusal .register = some cause ∧ e = Recorder.refusedRegistration b cause) ∧
    ((((start.after pre).facing step).registerBatch b).1 = .error e →
      start.registrations (pre ++ [step]) = start.registrations pre)

/-- **Every run registers once**, from a scene where no class is marked. -/
theorem registersOnce {start : Scene} (unmarked : ∀ c, c ∉ start.recorder.classes) (steps : List Step) :
    start.RegistersOnce steps := by
  have marked : ∀ pre c, c ∈ (start.after pre).recorder.classes ↔
      c ∈ (start.registrations pre).map Prod.fst := by
    intro pre c
    rw [mem_classes_registrations]
    exact or_iff_right (unmarked c)
  have discards : ∀ pre, (start.after pre).recorder.discards = start.recorder.discards :=
    fun pre => (start.after_extends pre).discards
  have next : ∀ pre step, start.registrations (pre ++ [step]) =
      start.registrations pre ++ ((start.after pre).registration? step).toList := by
    intro pre step
    rw [registrations_append]
    exact congrArg (_ ++ ·) (List.append_nil _)
  refine ⟨?_, (start.registrations_fresh steps).1, ?_, fun pre _ c _ => marked pre c, ?_, ?_, ?_⟩
  · intro keeps
    rw [weaves_history, keeps, if_neg Bool.false_ne_true]
  · intro c
    rw [← marked, mem_classes_after]
    exact or_iff_right (unmarked c)
  · intro pre step _ b _ action known
    rw [← marked] at known
    obtain ⟨unchanged, none⟩ := registerBatch_unchanged action known
    rw [next, none]
    exact ⟨unchanged, List.append_nil _⟩
  · intro pre step _ b _ action nonempty new takes
    rw [← marked] at new
    rw [← discards pre] at takes
    obtain ⟨ok, some⟩ := registerBatch_taken action nonempty new takes
    rw [next, some]
    exact ⟨ok, rfl⟩
  · intro pre step _ b e _ action
    rw [← marked, ← discards pre, next]
    refine ⟨registerBatch_error_iff action e, fun error => ?_⟩
    rw [registration?_of_error action error]
    exact List.append_nil _

end Scene

/-- **Registration happens exactly once** for each class, in every run of a recorder that is built. -/
theorem run_registersOnce {o : RecorderOptions} {sink : Sink} {r : Recorder}
    (built : Recorder.build o sink = .ok r) (steps : List Step) : r.scene.RegistersOnce steps := by
  obtain ⟨policy, rfl⟩ := Recorder.eq_withPolicy_of_build built
  exact Scene.registersOnce (fun c => FiniteSet.not_mem_empty c) steps

/-- A class whose registration is refused, and taken when it is tried again; then other probes are named for
    it, and a class without probes comes. -/
def retriedSteps : List Step :=
  let moment : Moment := ⟨.empty, ⟨0, "main"⟩, 1⟩
  let takes : SinkCall → Option RecorderError := fun _ => none
  let refuses : SinkCall → Option RecorderError := fun _ => some ⟨.sink, "disk full"⟩
  [⟨0, moment, refuses, .register Recorder.storefront⟩,
   ⟨0, moment, takes, .register Recorder.storefront⟩,
   ⟨0, moment, refuses, .register { Recorder.storefront with probes := [⟨32, .call, .object, 3, 4, ""⟩] }⟩,
   ⟨0, moment, takes, .register ⟨4, "app.Empty", []⟩⟩]

theorem run_registersOnce_retried :
    ∃ r, Recorder.build .capturing .empty = .ok r ∧
      r.scene.registrations retriedSteps = [(3, [30, 31])] ∧
      (r.scene.after retriedSteps).recorder.sink.log = [.weave 3 [30, 31]] ∧
      r.scene.RegistersOnce retriedSteps := by
  have built := Recorder.build_capturing .empty
  exact ⟨_, built, by decide, by decide, run_registersOnce built retriedSteps⟩

end ProbeRecorder
