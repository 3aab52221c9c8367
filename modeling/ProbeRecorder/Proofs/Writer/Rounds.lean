import ProbeRecorder.Proofs.Writer.Abandonment

/-!
# `ProbeRecorder.Proofs.Writer.Rounds` — how a drain runs

A drain goes round after round: it fills its buffer from the queue, gives the buffer to the archive when it
makes a batch or nothing more comes, and ends with an archive that refuses or with a round that moved
nothing. Nothing is supposed here of the archive; it may answer whatever it likes.

## Contents
- **Rounds.** `Pipeline.Rounds`, the rounds of a run with the room that each finds in the buffer.
- **Answers.** `Answered` and `Archive.Answers`, batch after batch.
- **Pieces.** `Cuts`, how what waits is cut into pieces while the archive takes them; the pieces are
  consecutive (`Cuts.order`), all but the last one full and taken (`Cuts.of_mem_dropLast`), and the last one
  is short only where nothing is left (`Cuts.of_mem_getLast?`).
- **One drain.** Round by round (`Pipeline.runs_of_due`, `Pipeline.runs_of_not_due`) and as a whole
  (`Pipeline.drain_runs`).
- **Runs.** What a call can do (`LogSession.act_cases`); `Pipeline.Ready` is kept by every call
  (`LogSession.ready_act`) and, for every writer, by every history (`LogHistory.ready_run`), so every drain is
  as `Pipeline.DrainsInPieces` says (`LogHistory.run_drainsInPieces`).
-/

namespace ProbeRecorder

/-! ## Rounds -/

namespace Pipeline

/-- Rounds that a drain needs at most: one for every full batch, one for the rest, and one that finds the
    queue empty. -/
def roundLimit (p : Pipeline) : Nat :=
  p.waiting.length / p.batchSize + if p.queue.entries = [] then 1 else 2

theorem fits_of_room {p : Pipeline} (room : p.buffer.length < p.batchSize) :
    p.buffer.length + (p.batchSize - p.buffer.length) = p.batchSize :=
  Nat.add_sub_of_le (Nat.le_of_lt room)

theorem roundLimit_pos (p : Pipeline) : 1 ≤ p.roundLimit := by
  rw [roundLimit]
  refine Nat.le_trans ?_ (Nat.le_add_left _ _)
  split <;> omega

/-- Something was moved only out of a queue that was not empty. -/
theorem queue_of_fill {p : Pipeline} (some : p.fill.1 ≠ 0) : p.queue.entries ≠ [] := by
  intro empty
  apply some
  show (p.queue.entries.take _).length = 0
  rw [empty, List.take_nil]
  rfl

/-- If something was moved, the buffer is stored because it is full, and a round is done with. -/
theorem roundLimit_of_due {p : Pipeline} (room : p.buffer.length < p.batchSize)
    (due : p.fill.2.isDue p.fill.1 = true) (some : p.fill.1 ≠ 0) (archive : Archive) :
    (p.fill.2.emptiedInto archive).roundLimit + 1 ≤ p.roundLimit := by
  have full : p.batchSize ≤ p.waiting.length := by
    rw [isDue, Bool.or_eq_true, decide_eq_true_iff, p.fill_buffer room, List.length_take] at due
    rcases due with full | idle
    · exact Nat.le_trans full (Nat.min_le_right _ _)
    · simp [some] at idle
  have shorter : p.waiting.length / p.batchSize = (p.waiting.length - p.batchSize) / p.batchSize + 1 :=
    Nat.div_eq_sub_div (Nat.zero_lt_of_lt room) full
  rw [roundLimit, p.emptiedInto_waiting room archive, List.length_drop, roundLimit,
    if_neg (queue_of_fill some), shorter]
  show (p.waiting.length - p.batchSize) / p.batchSize + _ + 1 ≤ _
  split <;> omega

end Pipeline

section Draining

variable [Compression]

namespace Pipeline

/-- **The rounds of a drain.** A round starts with a buffer that holds no more than a batch; what it lacks
    is the room that is asked of the queue. -/
inductive Rounds : Pipeline → List Nat → Except RecorderError Unit → Pipeline → Prop
  | refused {p after : Pipeline} {room : Nat} {error : RecorderError}
      (fits : p.buffer.length + room = p.batchSize)
      (stored : p.fill.2.storeIfDue p.fill.1 = (.error error, after)) :
      Rounds p [room] (.error error) after
  | last {p after : Pipeline} {room : Nat} (fits : p.buffer.length + room = p.batchSize)
      (stored : p.fill.2.storeIfDue p.fill.1 = (.ok (), after)) (none : p.fill.1 = 0) :
      Rounds p [room] (.ok ()) after
  | next {p mid after : Pipeline} {room : Nat} {rooms : List Nat} {result : Except RecorderError Unit}
      (fits : p.buffer.length + room = p.batchSize)
      (stored : p.fill.2.storeIfDue p.fill.1 = (.ok (), mid)) (some : p.fill.1 ≠ 0)
      (rest : Rounds mid rooms result after) : Rounds p (room :: rooms) result after

end Pipeline

/-! ## Answers -/

/-- A batch that was given to an archive, and what it answered. -/
structure Answered where
  entries : List Entry
  answer : Except RecorderError Unit

/-- **Batch after batch** is given to an archive. -/
inductive Archive.Answers : Archive → List Answered → Archive → Prop
  | nil (a : Archive) : Answers a [] a
  | cons {a b c : Archive} {piece : List Entry} {answer : Except RecorderError Unit}
      {more : List Answered} (stored : a.store piece = (answer, b)) (rest : Answers b more c) :
      Answers a (⟨piece, answer⟩ :: more) c

/-! ## Pieces -/

/-- **What waits is cut into pieces**, until none is left or the archive refuses one; the rest is left. -/
inductive Cuts (size : Nat) :
    Archive → List Entry → List Answered → Except RecorderError Unit → Archive → List Entry → Prop
  | done (a : Archive) : Cuts size a [] [] (.ok ()) a []
  | refused {a b : Archive} {waiting : List Entry} {error : RecorderError} (some : waiting ≠ [])
      (stored : a.store (waiting.take size) = (.error error, b)) :
      Cuts size a waiting [⟨waiting.take size, .error error⟩] (.error error) b (waiting.drop size)
  | taken {a b c : Archive} {waiting left : List Entry} {more : List Answered}
      {result : Except RecorderError Unit} (some : waiting ≠ [])
      (stored : a.store (waiting.take size) = (.ok (), b))
      (rest : Cuts size b (waiting.drop size) more result c left) :
      Cuts size a waiting (⟨waiting.take size, .ok ()⟩ :: more) result c left

namespace Cuts

variable {size : Nat} {a b : Archive} {waiting left : List Entry} {tried : List Answered}
  {result : Except RecorderError Unit}

/-- The archive saw the pieces, in this order, and nothing else. -/
theorem answers (h : Cuts size a waiting tried result b left) : a.Answers tried b := by
  induction h with
  | done a => exact .nil a
  | refused some stored => exact .cons stored (.nil _)
  | taken some stored rest ih => exact .cons stored ih

/-- **The pieces are consecutive**, and what is left follows them. -/
theorem order (h : Cuts size a waiting tried result b left) :
    waiting = tried.flatMap (·.entries) ++ left := by
  induction h with
  | done => rfl
  | refused some stored => rw [List.flatMap_singleton, List.take_append_drop]
  | taken some stored rest ih => rw [List.flatMap_cons, List.append_assoc, ← ih, List.take_append_drop]

/-- **The drain is done** exactly if the archive took every piece. -/
theorem done_iff (h : Cuts size a waiting tried result b left) :
    result = .ok () ↔ ∀ o ∈ tried, o.answer = .ok () := by
  induction h with
  | done => simp
  | refused some stored => simp
  | taken some stored rest ih => simpa using ih

/-- Where the drain is done, nothing is left. -/
theorem left_of_done (h : Cuts size a waiting tried result b left) (done : result = .ok ()) : left = [] := by
  induction h with
  | done => rfl
  | refused some stored => cases done
  | taken some stored rest ih => exact ih done

/-- Where no piece is made, nothing was there and nothing is left. -/
theorem left_of_nil (h : Cuts size a waiting [] result b left) : left = [] := by
  cases h
  rfl

/-- Something waits as long as another piece is made of it. -/
theorem waiting_ne_nil {o : Answered} {more : List Answered}
    (h : Cuts size a waiting (o :: more) result b left) : waiting ≠ [] := by
  cases h with
  | refused some stored => exact some
  | taken some stored rest => exact some

/-- Every piece but the last one is full and was taken. -/
theorem of_mem_dropLast (h : Cuts size a waiting tried result b left) :
    ∀ o ∈ tried.dropLast, o.entries.length = size ∧ o.answer = .ok () := by
  induction h with
  | done => simp
  | refused some stored => simp
  | @taken a b c waiting left more result some stored rest ih =>
      cases more with
      | nil => simp
      | cons next others =>
          intro o ho
          rw [List.dropLast_cons_cons] at ho
          rcases List.mem_cons.1 ho with rfl | ho
          · -- Something waits behind this piece, so it did not come to its end early.
            have longer : 0 < (waiting.drop size).length := List.length_pos_iff.2 rest.waiting_ne_nil
            rw [List.length_drop] at longer
            refine ⟨?_, rfl⟩
            rw [List.length_take]
            omega
          · exact ih o ho

/-- The last piece has something in it, and is short only if nothing is left. -/
theorem of_mem_getLast? (h : Cuts size a waiting tried result b left) (positive : 0 < size) :
    ∀ o ∈ tried.getLast?, 0 < o.entries.length ∧ o.entries.length ≤ size ∧
      (o.entries.length < size → left = []) := by
  induction h with
  | done => simp
  | @refused a b waiting error some stored =>
      intro o ho
      obtain rfl := Option.mem_some_iff.1 (List.getLast?_singleton ▸ ho)
      have bounds := length_piece ⟨positive, some⟩
      refine ⟨bounds.1, bounds.2, ?_⟩
      intro short
      rw [List.length_take] at short
      exact List.drop_of_length_le (by omega)
  | @taken a b c waiting left more result some stored rest ih =>
      cases more with
      | nil =>
          intro o ho
          obtain rfl := Option.mem_some_iff.1 (List.getLast?_singleton ▸ ho)
          have bounds := length_piece ⟨positive, some⟩
          exact ⟨bounds.1, bounds.2, fun _ => rest.left_of_nil⟩
      | cons next others =>
          rw [List.getLast?_cons_cons]
          exact ih

end Cuts

/-! ## One drain -/

namespace Pipeline

/-- **How a drain runs** from here: its rounds, and the pieces that it makes of what waits. -/
structure Runs (p : Pipeline) (result : Except RecorderError Unit) (after : Pipeline) : Prop where
  rounds : ∃ rooms, p.Rounds rooms result after ∧ rooms.length ≤ p.roundLimit
  cuts : ∃ tried, Cuts p.batchSize p.archive p.waiting tried result after.archive after.queue.entries
  buffer : after.buffer = []
  size : after.batchSize = p.batchSize

/-- **A round that stores a batch** makes the first piece. -/
theorem runs_of_due {p : Pipeline} (room : p.buffer.length < p.batchSize)
    (due : p.fill.2.isDue p.fill.1 = true)
    (next : p.fill.1 ≠ 0 → ∀ archive : Archive,
      (p.fill.2.emptiedInto archive).Runs (p.fill.2.emptiedInto archive).drain.1
        (p.fill.2.emptiedInto archive).drain.2) :
    p.Runs p.drain.1 p.drain.2 := by
  have some := waiting_ne_nil_of_due room due
  have stores := storeIfDue_of_due room due
  cases answer : p.archive.store (p.waiting.take p.batchSize) with
  | mk outcome archive =>
    rw [answer] at stores
    rw [p.drain_eq, stores]
    have waits := p.emptiedInto_waiting room archive
    cases outcome with
    | error error =>
        have rounds : p.Rounds [p.batchSize - p.buffer.length] (.error error)
            (p.fill.2.emptiedInto archive) := .refused (fits_of_room room) stores
        have cuts := Cuts.refused some answer
        exact ⟨⟨_, rounds, p.roundLimit_pos⟩, ⟨_, waits ▸ cuts⟩, rfl, rfl⟩
    | ok =>
        by_cases none : p.fill.1 = 0
        · have left : p.waiting.drop p.batchSize = [] := waits.symm.trans (p.emptiedInto_last room none archive)
          have rounds : p.Rounds [p.batchSize - p.buffer.length] (.ok ())
              (p.fill.2.emptiedInto archive) := .last (fits_of_room room) stores none
          have rest : Cuts p.batchSize archive (p.waiting.drop p.batchSize) [] (.ok ()) archive
              (p.waiting.drop p.batchSize) := by
            rw [left]
            exact .done archive
          simp only [none, if_true]
          have cuts := Cuts.taken some answer rest
          exact ⟨⟨_, rounds, p.roundLimit_pos⟩, ⟨_, waits ▸ cuts⟩, rfl, rfl⟩
        · simp only [if_neg none]
          obtain ⟨⟨rooms, rounds, few⟩, ⟨tried, cuts⟩, buffer, size⟩ := next none archive
          rw [waits] at cuts
          refine ⟨⟨_, .next (fits_of_room room) stores none rounds, ?_⟩, ⟨_, .taken some answer cuts⟩,
            buffer, size⟩
          exact Nat.le_trans (Nat.succ_le_succ few) (roundLimit_of_due room due none archive)

/-- **A round that stores nothing** makes no piece. -/
theorem runs_of_not_due {p : Pipeline} (room : p.buffer.length < p.batchSize)
    (notDue : p.fill.2.isDue p.fill.1 = false)
    (next : p.fill.1 ≠ 0 → p.fill.2.buffer.length < p.batchSize →
      p.fill.2.Runs p.fill.2.drain.1 p.fill.2.drain.2) :
    p.Runs p.drain.1 p.drain.2 := by
  obtain ⟨short, last⟩ := isDue_of_fill room notDue
  have waits := p.fill_waiting room
  have stores : p.fill.2.storeIfDue p.fill.1 = (.ok (), p.fill.2) := by
    rw [storeIfDue, if_neg (Bool.eq_false_iff.1 notDue)]
  rw [p.drain_eq, stores]
  by_cases none : p.fill.1 = 0
  · have empty : p.fill.2.buffer = [] ∧ p.fill.2.queue.entries = [] :=
      List.append_eq_nil_iff.1 (waits.trans (last none))
    simp only [none, if_true]
    refine ⟨⟨_, .last (fits_of_room room) stores none, p.roundLimit_pos⟩, ⟨[], ?_⟩, empty.1, rfl⟩
    rw [last none, empty.2]
    exact .done _
  · simp only [if_neg none]
    have emptied : p.fill.2.queue.entries = [] := by
      rw [p.fill_queue room, List.drop_of_length_le (Nat.le_of_lt short)]
    have buffered : p.fill.2.buffer.length < p.batchSize := by
      rw [p.fill_buffer room, List.length_take]
      omega
    obtain ⟨⟨rooms, rounds, few⟩, ⟨tried, cuts⟩, buffer, size⟩ := next none buffered
    rw [waits] at cuts
    refine ⟨⟨_, .next (fits_of_room room) stores none rounds, ?_⟩, ⟨tried, cuts⟩, buffer, size⟩
    rw [roundLimit, waits, if_pos emptied] at few
    rw [List.length_cons, roundLimit, if_neg (queue_of_fill none)]
    exact Nat.succ_le_succ few

/-- **Every drain runs** so, from whatever buffer has room. -/
theorem drain_runs (p : Pipeline) (room : p.buffer.length < p.batchSize) : p.Runs p.drain.1 p.drain.2 := by
  -- Induction on the queue: a round that another one follows has taken something out of it.
  generalize hsize : p.queue.size = n
  induction n using Nat.strongRecOn generalizing p with
  | ind n ih =>
    have smaller : p.fill.1 ≠ 0 → p.fill.2.queue.size < n := by
      intro some
      have := p.fill_queue_size
      omega
    cases due : p.fill.2.isDue p.fill.1 with
    | true =>
        apply runs_of_due room due
        intro some archive
        apply ih _ (smaller some) (p.fill.2.emptiedInto archive) _ rfl
        exact Nat.zero_lt_of_lt room
    | false =>
        apply runs_of_not_due room due
        intro some short
        exact ih _ (smaller some) p.fill.2 short rfl

/-- **What one drain does** to what is queued: the archive is given consecutive pieces of it, and ends the
    drain with the first piece that it refuses. -/
structure DrainsInPieces (p : Pipeline) (rooms : List Nat) (tried : List Answered) : Prop where
  rounds : p.Rounds rooms p.drain.1 p.drain.2
  few : rooms.length ≤ p.queue.size / p.batchSize + 2
  answers : p.archive.Answers tried p.drain.2.archive
  order : p.queue.entries = tried.flatMap (·.entries) ++ p.drain.2.queue.entries
  full : ∀ o ∈ tried.dropLast, o.entries.length = p.batchSize ∧ o.answer = .ok ()
  /-- A piece that is short is the last of what is queued. -/
  last : ∀ o ∈ tried.getLast?, 0 < o.entries.length ∧ o.entries.length ≤ p.batchSize ∧
    (o.entries.length < p.batchSize → p.drain.2.queue.entries = [])
  done : p.drain.1 = .ok () ↔ ∀ o ∈ tried, o.answer = .ok ()
  emptied : p.drain.1 = .ok () → p.drain.2.queue.entries = []
  ready : p.drain.2.Ready

theorem Ready.drain {p : Pipeline} (h : p.Ready) : p.drain.2.Ready := by
  have runs := p.drain_runs h.room
  exact ⟨runs.size ▸ h.size, runs.buffer⟩

theorem Ready.drainsInPieces {p : Pipeline} (h : p.Ready) :
    ∃ rooms tried, p.DrainsInPieces rooms tried := by
  obtain ⟨⟨rooms, rounds, few⟩, ⟨tried, cuts⟩, -, -⟩ := p.drain_runs h.room
  have waits := h.waiting_eq
  rw [waits] at cuts
  have limit : p.roundLimit ≤ p.queue.size / p.batchSize + 2 := by
    rw [roundLimit, waits]
    apply Nat.add_le_add_left
    split <;> omega
  exact ⟨rooms, tried, {
    rounds := rounds
    few := Nat.le_trans few limit
    answers := cuts.answers
    order := cuts.order
    full := cuts.of_mem_dropLast
    last := cuts.of_mem_getLast? h.size
    done := cuts.done_iff
    emptied := cuts.left_of_done
    ready := h.drain }⟩

end Pipeline

/-! ## Runs -/

namespace LogSession

/-- A flush is a drain of a worker at work, or changes nothing. -/
theorem drained_flush_cases (s : LogSession) :
    (s.drained s.writer.flush).2 = s ∨ s.writer.phase = .running ∧
      (s.drained s.writer.flush).2 = (s.drained (s.writer.drainInto .running)).2 := by
  by_cases running : s.writer.phase = .running
  · rw [LogWriter.flush_of_running running]
    exact .inr ⟨running, rfl⟩
  · rw [LogWriter.flush_of_not_running running, drained_of_not_running running]
    exact .inl rfl

/-- **What a call can do**: it changes the phase of the writer, or its queue, or a worker at work drains. -/
theorem act_cases (s : LogSession) (call : LogCall) :
    (∃ phase, (s.act call).2 = { s with writer := { s.writer with phase := phase } }) ∨
      (∃ queue accepted,
        (s.act call).2 = { s with writer := s.writer.withQueue queue, accepted := accepted }) ∨
      s.writer.phase = .running ∧ ∃ phase, (s.act call).2 = (s.drained (s.writer.drainInto phase)).2 := by
  have flushes := s.drained_flush_cases
  rw [LogSession.act.eq_def]
  cases call with
  | start =>
      obtain ⟨phase, hstart⟩ := s.writer.exists_phase_of_start
      simp only [hstart]
      exact .inl ⟨phase, rfl⟩
  | record e =>
      rcases s.writer.record_cases e with pushed | ⟨error, dropped⟩
      · simp only [pushed]
        exact .inr (.inl ⟨_, _, rfl⟩)
      · simp only [dropped]
        exact .inr (.inl ⟨_, s.accepted, rfl⟩)
  | wake =>
      rcases flushes with same | ⟨running, drains⟩
      · exact .inl ⟨s.writer.phase, same⟩
      · exact .inr (.inr ⟨running, .running, drains⟩)
  | flush =>
      rcases flushes with same | ⟨running, drains⟩
      · exact .inl ⟨s.writer.phase, same⟩
      · exact .inr (.inr ⟨running, .running, drains⟩)
  | shutdown =>
      by_cases running : s.writer.phase = .running
      · simp only [LogWriter.shutdown_of_running running]
        exact .inr (.inr ⟨running, .stopped, rfl⟩)
      · simp only [LogWriter.shutdown_of_not_running running, drained_of_not_running running]
        exact .inl ⟨s.writer.phase, rfl⟩

/-- **Every call** leaves the buffer empty. -/
theorem ready_act {s : LogSession} (h : s.writer.pipeline.Ready) (call : LogCall) :
    (s.act call).2.writer.pipeline.Ready := by
  rcases s.act_cases call with ⟨phase, same⟩ | ⟨queue, accepted, queued⟩ | ⟨-, phase, drains⟩
  · rw [same]
    exact h
  · rw [queued]
    exact ⟨h.size, h.buffer⟩
  · rw [drains]
    exact h.drain

end LogSession

namespace LogHistory

/-- **All workers are between drains.** -/
def Ready (h : LogHistory) : Prop := ∀ s ∈ h.sessions, s.writer.pipeline.Ready

/-- A call of one writer. -/
theorem Ready.ask {h : LogHistory} (ready : h.Ready) (k : Nat) (call : LogCall) : (h.ask k call).Ready := by
  cases found : h.sessions[k]? with
  | none => rwa [ask_of_none found]
  | some s =>
    intro t ht
    obtain ⟨j, there⟩ := List.mem_iff_getElem?.1 ht
    rcases session_of_ask found call there with ⟨-, rfl⟩ | ⟨-, before, earlier, rfl⟩
    · exact s.ready_act (ready s (List.mem_of_getElem? found)) call
    · exact LogSession.ready_onDisk (ready before (List.mem_of_getElem? earlier)) _

omit [Compression] in
/-- Another writer, whose buffer is empty too. -/
theorem Ready.reopen {h after : LogHistory} (ready : h.Ready) {settings : WriterSettings}
    (reopened : h.reopen settings = .ok after) : after.Ready := by
  obtain ⟨writer, made, ended⟩ := bind_eq_ok_iff.1 reopened
  cases ended
  intro s hs
  rcases List.mem_append.1 hs with hs | hs
  · obtain ⟨before, earlier, rfl⟩ := List.mem_map.1 hs
    exact LogSession.ready_onDisk (ready before earlier) _
  · rw [List.mem_singleton.1 hs]
    exact (LogSession.sound_fresh made).ready

/-- One step after the other. -/
theorem Ready.foldlM {h after : LogHistory} (ready : h.Ready) (actions : List LogAction)
    (ran : actions.foldlM step h = .ok after) : after.Ready := by
  induction actions generalizing h with
  | nil =>
      cases ran
      exact ready
  | cons action rest ih =>
      obtain ⟨next, stepped, steps⟩ := bind_eq_ok_iff.1 ran
      cases action with
      | call k call =>
          cases stepped
          exact ih (ready.ask k call) steps
      | reopen settings => exact ih (ready.reopen stepped) steps

/-- **Every run** leaves the buffers empty. -/
theorem ready_run {settings : WriterSettings} {disk : Disk} {actions : List LogAction} {h : LogHistory}
    (ran : run settings disk actions = .ok h) : h.Ready := by
  obtain ⟨first, started, steps⟩ := bind_eq_ok_iff.1 ran
  have begins : Ready ⟨disk, [], [], []⟩ := fun s hs => absurd hs List.not_mem_nil
  exact (begins.reopen started).foldlM actions steps

/-- **One drain.** With an empty buffer and whatever is queued, a drain comes to its end within the limit of
    its rounds, and none of them finds more in the buffer than a batch. It gives the archive consecutive
    pieces, leaves what is behind the first piece that is refused, and empties its buffer; so the buffers are
    empty before every drain of every run, over whatever disk. -/
theorem run_drainsInPieces :
    (∀ p : Pipeline, p.Ready → ∃ rooms tried, p.DrainsInPieces rooms tried) ∧
      ∀ settings disk actions h, run settings disk actions = .ok h →
        ∀ s ∈ h.sessions, s.writer.pipeline.Ready := by
  constructor
  · intro p ready
    exact ready.drainsInPieces
  · intro settings disk actions h ran
    exact ready_run ran

end LogHistory
end Draining

namespace LogHistory

/-- In batches of two, the first of which the disk refuses, the third entry is left. -/
theorem run_drainsInPieces_three :
    ∃ h s, run ⟨2, 8, .fast⟩ { Disk.blank with batchFaults := [some .file] }
        [.call 0 .start, .call 0 (.record (.weave 1 [])), .call 0 (.record (.weave 2 [])),
          .call 0 (.record (.weave 3 []))] = .ok h ∧
      h.sessions = [s] ∧ s.queue.size = 3 ∧ s.writer.pipeline.Ready ∧
      (∃ rooms tried, s.writer.pipeline.DrainsInPieces rooms tried) ∧
      s.writer.pipeline.drain.2.queue.entries = [.weave 3 []] := by
  have undoes := Compression.frames_undoes
  obtain ⟨first, started, sound, -⟩ := exists_start_sound ⟨2, 8, .fast⟩
    { Disk.blank with batchFaults := [some .file] } rfl rfl
  obtain ⟨h, ran, sound⟩ := sound.foldlM undoes [.call 0 .start, .call 0 (.record (.weave 1 [])),
    .call 0 (.record (.weave 2 [])), .call 0 (.record (.weave 3 []))]
  obtain ⟨s, sessions, running, queue, size, faults⟩ :
      ∃ s, h.sessions = [s] ∧ s.writer.phase = .running ∧
        s.queue.entries = [.weave 1 [], .weave 2 [], .weave 3 []] ∧ s.writer.pipeline.batchSize = 2 ∧
        s.writer.disk.batchFaults = [some .file] := by
    cases started
    cases ran
    exact ⟨_, rfl, rfl, rfl, rfl, rfl⟩
  have found : h.sessions[0]? = some s := by rw [sessions]; rfl
  obtain ⟨good, -⟩ := sound.sessions 0 s found
  have ran : run ⟨2, 8, .fast⟩ { Disk.blank with batchFaults := [some .file] }
      [.call 0 .start, .call 0 (.record (.weave 1 [])), .call 0 (.record (.weave 2 [])),
        .call 0 (.record (.weave 3 []))] = .ok h := bind_eq_ok_iff.2 ⟨first, started, ran⟩
  have ready := run_drainsInPieces.2 _ _ _ h ran s (List.mem_of_getElem? found)
  refine ⟨h, s, ran, sessions, ?_, ready, run_drainsInPieces.1 _ ready, ?_⟩
  · rw [EntryQueue.size, queue]
    rfl
  · have left := (good.worked undoes (sound.session_holds found) running .running).queue
    rw [good.pending_eq running, size, faults, queue, offers_of_fault (by simp) rfl] at left
    have behind : ([.weave 1 [], .weave 2 []] ++ [.weave 3 []] : List Entry) =
        [.weave 1 [], .weave 2 []] ++ s.writer.pipeline.drain.2.queue.entries := left
    exact (List.append_cancel_left behind).symm

end LogHistory
end ProbeRecorder
