import Mathlib.Data.List.Flatten
import ProbeRecorder.Writer.Drain
import ProbeRecorder.Proofs.Batch.Compression
import ProbeRecorder.Proofs.Storage.Stored

/-!
# `ProbeRecorder.Proofs.Writer.Drain` — which batches a drain makes

What is waiting, in the buffer and behind it in the queue, is cut into pieces of the batch size, the last
one possibly shorter. The pieces are offered to the disk one after the other; each meets the next fault of
the disk, and the first that is refused is lost and ends the drain.

## Contents
- **Offers.** `Offer`, `offers`, of at most the batch size (`length_of_mem_offers`); `taken`, `lost`.
- **Rounds.** A round fills the buffer (`Pipeline.fill_buffer`, `Pipeline.fill_queue`), which is empty between
  drains (`Pipeline.Ready`).
- **Storing.** `Archive.Took`, for one batch (`Archive.store_of_free`,
  `Archive.store_of_fault`) and one batch after another
  (`Archive.Took.append`).
- **Drain.** `Pipeline.drain_eq`; `Pipeline.Drained`, round by round (`Pipeline.continues_of_due`,
  `Pipeline.continues_of_not_due`) and for a whole drain (`Pipeline.drain_drained`).
-/

namespace ProbeRecorder

/-! ## Offers -/

/-- A batch that was offered to the disk, and whether the disk took it. -/
structure Offer where
  entries : List Entry
  taken : Bool

/-- **The offers of a drain**: pieces of what waits, up to the first that meets a fault. -/
def offers (size : Nat) (faults : List (Option BatchFault)) (waiting : List Entry) : List Offer :=
  if _work : 0 < size ∧ waiting ≠ [] then
    match faults.head?.join with
    | none => ⟨waiting.take size, true⟩ :: offers size (faults.drop 1) (waiting.drop size)
    | some _ => [⟨waiting.take size, false⟩]
  else []
  termination_by waiting.length
  decreasing_by
    rw [List.length_drop]
    have := List.length_pos_iff.2 _work.2
    omega

/-- The batches that were taken. -/
def taken (os : List Offer) : List (List Entry) := (os.filter (·.taken)).map (·.entries)

/-- The batches that were refused. -/
def lost (os : List Offer) : List (List Entry) := (os.filter (!·.taken)).map (·.entries)

/-- The entries of all offers. -/
def offered (os : List Offer) : List Entry := os.flatMap (·.entries)

theorem offers_nil (size : Nat) (faults : List (Option BatchFault)) : offers size faults [] = [] := by
  rw [offers, dif_neg (by simp)]

theorem offers_of_free {size : Nat} {faults : List (Option BatchFault)} {waiting : List Entry}
    (work : 0 < size ∧ waiting ≠ []) (free : faults.head?.join = none) :
    offers size faults waiting =
      ⟨waiting.take size, true⟩ :: offers size (faults.drop 1) (waiting.drop size) := by
  rw [offers, dif_pos work, free]

theorem offers_of_fault {size : Nat} {faults : List (Option BatchFault)} {waiting : List Entry}
    (work : 0 < size ∧ waiting ≠ []) {fault : BatchFault} (meets : faults.head?.join = some fault) :
    offers size faults waiting = [⟨waiting.take size, false⟩] := by
  rw [offers, dif_pos work, meets]

theorem length_piece {size : Nat} {waiting : List Entry} (work : 0 < size ∧ waiting ≠ []) :
    0 < (waiting.take size).length ∧ (waiting.take size).length ≤ size := by
  have hsize := work.1
  have hlen := List.length_pos_iff.2 work.2
  rw [List.length_take]
  omega

/-- An offer has something in it, and no more than makes a batch. -/
theorem length_of_mem_offers {size : Nat} {faults : List (Option BatchFault)} {waiting : List Entry}
    {o : Offer} (h : o ∈ offers size faults waiting) : 0 < o.entries.length ∧ o.entries.length ≤ size := by
  fun_induction offers size faults waiting with
  | case1 faults waiting work free ih =>
      rcases List.mem_cons.1 h with rfl | h
      · exact length_piece work
      · exact ih h
  | case2 faults waiting work fault meets =>
      rw [List.mem_singleton.1 h]
      exact length_piece work
  | case3 => exact absurd h List.not_mem_nil

theorem taken_append (os more : List Offer) : taken (os ++ more) = taken os ++ taken more := by
  rw [taken, List.filter_append, List.map_append]
  rfl

theorem lost_append (os more : List Offer) : lost (os ++ more) = lost os ++ lost more := by
  rw [lost, List.filter_append, List.map_append]
  rfl

theorem offered_append (os more : List Offer) : offered (os ++ more) = offered os ++ offered more :=
  List.flatMap_append

/-- Offered entries are either taken or lost. -/
theorem length_offered (os : List Offer) :
    (offered os).length = (taken os).flatten.length + (lost os).flatten.length := by
  induction os with
  | nil => rfl
  | cons o rest ih =>
      rw [← List.singleton_append, offered_append, taken_append, lost_append, List.flatten_append,
        List.flatten_append, List.length_append, List.length_append, List.length_append, ih]
      obtain ⟨entries, isTaken⟩ := o
      cases isTaken with
      | true =>
          show (entries ++ []).length + _ = (entries ++ []).length + _ + (0 + _)
          omega
      | false =>
          show (entries ++ []).length + _ = 0 + _ + ((entries ++ []).length + _)
          omega

/-- The taken entries are offered ones, in the same order. -/
theorem flatten_taken_sublist (os : List Offer) : (taken os).flatten.Sublist (offered os) := by
  rw [taken, ← List.flatMap_def]
  exact List.filter_sublist.flatMap _

/-- Where nothing was lost, all offered entries were taken. -/
theorem flatten_taken {os : List Offer} (h : lost os = []) : (taken os).flatten = offered os := by
  have all : ∀ o ∈ os, o.taken = true := by
    intro o ho
    have none := List.filter_eq_nil_iff.1 (List.map_eq_nil_iff.1 h) o ho
    simpa using none
  rw [taken, List.filter_eq_self.2 all, ← List.flatMap_def]
  rfl

/-! ## Rounds -/

namespace Pipeline

/-- **Between drains** the buffer is empty. -/
structure Ready (p : Pipeline) : Prop where
  size : 0 < p.batchSize
  buffer : p.buffer = []

theorem Ready.room {p : Pipeline} (h : p.Ready) : p.buffer.length < p.batchSize := by
  rw [h.buffer]
  exact h.size

/-- What waits: the buffer, and the queue behind it. -/
def waiting (p : Pipeline) : List Entry := p.buffer ++ p.queue.entries

theorem Ready.waiting_eq {p : Pipeline} (h : p.Ready) : p.waiting = p.queue.entries := by
  rw [waiting, h.buffer, List.nil_append]

/-- A filled buffer is the first piece of what waits. -/
theorem fill_buffer (p : Pipeline) (room : p.buffer.length < p.batchSize) :
    p.fill.2.buffer = p.waiting.take p.batchSize := by
  show p.buffer ++ p.queue.entries.take (p.batchSize - p.buffer.length) = _
  rw [waiting, List.take_append, List.take_of_length_le (Nat.le_of_lt room)]

/-- The queue keeps what is behind the first piece. -/
theorem fill_queue (p : Pipeline) (room : p.buffer.length < p.batchSize) :
    p.fill.2.queue.entries = p.waiting.drop p.batchSize := by
  show p.queue.entries.drop (p.batchSize - p.buffer.length) = _
  rw [waiting, List.drop_append, List.drop_of_length_le (Nat.le_of_lt room), List.nil_append]

/-- Nothing is moved only out of an empty queue. -/
theorem fill_none (p : Pipeline) (room : p.buffer.length < p.batchSize) (none : p.fill.1 = 0) :
    p.queue.entries = [] := by
  have hlen : (p.queue.entries.take (p.batchSize - p.buffer.length)).length = 0 := none
  rw [List.length_take] at hlen
  exact List.length_eq_zero_iff.1 (by omega)

/-- A round that stores nothing, and is not the last one, has moved everything into the buffer. -/
theorem isDue_of_fill {p : Pipeline} (room : p.buffer.length < p.batchSize)
    (notDue : p.fill.2.isDue p.fill.1 = false) :
    p.waiting.length < p.batchSize ∧ (p.fill.1 = 0 → p.waiting = []) := by
  rw [isDue, Bool.or_eq_false_iff, Bool.and_eq_false_iff] at notDue
  -- The buffer is short of a batch, so the queue was emptied into it.
  obtain ⟨short, more⟩ := notDue
  have hshort : ¬ p.batchSize ≤ p.fill.2.buffer.length := of_decide_eq_false short
  rw [p.fill_buffer room, List.length_take] at hshort
  refine ⟨by omega, fun none => ?_⟩
  rw [none] at more
  have hempty : p.fill.2.buffer = [] := by
    rcases more with h | h
    · exact absurd h (by decide)
    · exact List.isEmpty_iff.1 (by simpa using h)
  rw [p.fill_buffer room, List.take_of_length_le (by omega)] at hempty
  exact hempty

/-- A buffer that is due is not empty. -/
theorem buffer_of_due {p : Pipeline} (room : p.buffer.length < p.batchSize)
    (due : p.fill.2.isDue p.fill.1 = true) : p.fill.2.buffer ≠ [] := by
  intro empty
  rw [isDue, Bool.or_eq_true, empty] at due
  rcases due with full | rest
  · have : p.batchSize ≤ 0 := of_decide_eq_true full
    omega
  · simp at rest

/-- Where a buffer is due, something waits. -/
theorem waiting_ne_nil_of_due {p : Pipeline} (room : p.buffer.length < p.batchSize)
    (due : p.fill.2.isDue p.fill.1 = true) : p.waiting ≠ [] := by
  intro empty
  apply buffer_of_due room due
  rw [p.fill_buffer room, empty, List.take_nil]

/-- The pipeline once its buffer went into an archive. -/
def emptiedInto (p : Pipeline) (archive : Archive) : Pipeline :=
  { p with buffer := [], archive := archive }

/-- Filling the buffer leaves what waits. -/
theorem fill_waiting (p : Pipeline) (room : p.buffer.length < p.batchSize) :
    p.fill.2.waiting = p.waiting := by
  rw [waiting, p.fill_buffer room, p.fill_queue room, List.take_append_drop]

/-- Once the first piece is out of the buffer, the others wait. -/
theorem emptiedInto_waiting (p : Pipeline) (room : p.buffer.length < p.batchSize) (archive : Archive) :
    (p.fill.2.emptiedInto archive).waiting = p.waiting.drop p.batchSize := p.fill_queue room

/-- A buffer that was due because nothing came behind it leaves nothing waiting. -/
theorem emptiedInto_last (p : Pipeline) (room : p.buffer.length < p.batchSize) (none : p.fill.1 = 0)
    (archive : Archive) : (p.fill.2.emptiedInto archive).waiting = [] := by
  rw [p.emptiedInto_waiting room, waiting, p.fill_none room none, List.append_nil,
    List.drop_of_length_le (Nat.le_of_lt room)]

/-- What no drain changes. -/
structure Keeps (p after : Pipeline) : Prop where
  size : after.batchSize = p.batchSize
  accepted : after.queue.accepted = p.queue.accepted
  rejected : after.queue.rejected = p.queue.rejected

theorem Keeps.refl (p : Pipeline) : p.Keeps p := ⟨rfl, rfl, rfl⟩

theorem fill_keeps (p : Pipeline) : p.Keeps p.fill.2 := ⟨rfl, rfl, rfl⟩

theorem emptiedInto_keeps (p : Pipeline) (archive : Archive) : p.Keeps (p.fill.2.emptiedInto archive) :=
  ⟨rfl, rfl, rfl⟩

theorem Keeps.trans {p mid after : Pipeline} (h : p.Keeps mid) (h' : mid.Keeps after) : p.Keeps after :=
  ⟨h'.size.trans h.size, h'.accepted.trans h.accepted, h'.rejected.trans h.rejected⟩

end Pipeline

/-! ## Storing -/

variable [c : Compression]

namespace Archive

/-- **What offers do to an archive** whose disk held some batches: the taken ones are held behind them,
    and everything offered is counted. -/
structure Took (a a' : Archive) (batches : List (List Entry)) (os : List Offer) : Prop where
  holds : a'.disk.Holds (batches ++ taken os)
  faults : a'.disk.batchFaults = a.disk.batchFaults.drop os.length
  flushed : a'.entriesFlushed = a.entriesFlushed + (taken os).flatten.length
  stored : a'.batchesFlushed = a.batchesFlushed + (taken os).length
  failures : a'.flushFailures = a.flushFailures + (lost os).length

theorem Took.nil {a : Archive} {batches : List (List Entry)} (h : a.disk.Holds batches) :
    a.Took a batches [] :=
  ⟨by rwa [taken, List.filter_nil, List.map_nil, List.append_nil], rfl, rfl, rfl, rfl⟩

/-- Offers add up. -/
theorem Took.append {a b c : Archive} {batches : List (List Entry)} {os more : List Offer}
    (first : a.Took b batches os) (next : b.Took c (batches ++ taken os) more) :
    a.Took c batches (os ++ more) := by
  constructor
  · rw [taken_append, ← List.append_assoc]
    exact next.holds
  · rw [next.faults, first.faults, List.drop_drop, List.length_append]
  · rw [next.flushed, first.flushed, taken_append, List.flatten_append, List.length_append,
      Nat.add_assoc]
  · rw [next.stored, first.stored, taken_append, List.length_append, Nat.add_assoc]
  · rw [next.failures, first.failures, lost_append, List.length_append, Nat.add_assoc]

/-- The rows of registrations change neither batches nor counters of batches. -/
theorem foldl_storeRow {batches : List (List Entry)} (entries : List Entry) {a : Archive}
    (h : a.disk.Holds batches) :
    (entries.foldl storeRow a).disk.Holds batches ∧
      (entries.foldl storeRow a).disk.batchFaults = a.disk.batchFaults ∧
      (entries.foldl storeRow a).entriesFlushed = a.entriesFlushed ∧
      (entries.foldl storeRow a).batchesFlushed = a.batchesFlushed ∧
      (entries.foldl storeRow a).flushFailures = a.flushFailures := by
  induction entries generalizing a with
  | nil => exact ⟨h, rfl, rfl, rfl, rfl⟩
  | cons e rest ih =>
      rw [List.foldl_cons]
      cases e with
      | event e => exact ih h
      | weave classId probes =>
          obtain ⟨kept, faults⟩ := h.recordClass classId probes
          rw [storeRow]
          split <;> rename_i hrec <;> rw [hrec] at kept faults
          · obtain ⟨h1, h2, h3, h4, h5⟩ := ih (a := { a with disk := _ }) kept
            exact ⟨h1, h2.trans faults, h3, h4, h5⟩
          · obtain ⟨h1, h2, h3, h4, h5⟩ :=
              ih (a := { a with disk := _, classFailures := a.classFailures + 1 }) kept
            exact ⟨h1, h2.trans faults, h3, h4, h5⟩

/-- **A batch that meets no fault** is taken. -/
theorem store_of_free (undoes : c.Undoes) {a : Archive} {batches : List (List Entry)}
    (h : a.disk.Holds batches) (entries : List Entry) (free : a.disk.batchFaults.head?.join = none) :
    ∃ after, a.store entries = (.ok (), after) ∧ a.Took after batches [⟨entries, true⟩] := by
  obtain ⟨content, encoded, decoded⟩ := Compression.exists_encode undoes a.level entries
  obtain ⟨number, disk, hwrite, holds, faults⟩ := h.writeBatch_taken decoded entries.length.toInt64 free
  obtain ⟨h1, h2, h3, h4, h5⟩ := foldl_storeRow entries (a := { a with disk := disk }) holds
  unfold store
  simp only [encoded, hwrite]
  refine ⟨_, rfl, h1, h2.trans faults, ?_, ?_, h5⟩
  · rw [h3]
    simp [taken]
  · rw [h4]
    rfl

/-- **A batch that meets a fault** is lost. -/
theorem store_of_fault (undoes : c.Undoes) {a : Archive} {batches : List (List Entry)}
    (h : a.disk.Holds batches) (entries : List Entry) {fault : BatchFault}
    (meets : a.disk.batchFaults.head?.join = some fault) :
    ∃ error after, a.store entries = (.error error, after) ∧
      a.Took after batches [⟨entries, false⟩] := by
  obtain ⟨content, encoded, -⟩ := Compression.exists_encode undoes a.level entries
  obtain ⟨error, disk, hwrite, holds, faults⟩ := h.writeBatch_refused content entries.length.toInt64 meets
  unfold store
  simp only [encoded, hwrite]
  refine ⟨error, _, rfl, ?_, faults, rfl, rfl, rfl⟩
  rw [taken, List.filter_cons_of_neg (by simp), List.filter_nil, List.map_nil, List.append_nil]
  exact holds

end Archive

/-! ## Drain -/

namespace Pipeline

/-- One round, and whether another follows. -/
theorem drain_eq (p : Pipeline) :
    p.drain = match p.fill.2.storeIfDue p.fill.1 with
      | (.error e, after) => (.error e, after)
      | (.ok (), after) => if p.fill.1 = 0 then (.ok (), after) else after.drain := by
  rw [drain]
  split <;> rename_i h
  · simp only [h]
  · simp only [h, dite_eq_ite]

theorem storeBuffer_of_ne {p : Pipeline} (h : p.buffer ≠ []) :
    p.storeBuffer =
      ((p.archive.store p.buffer).1, p.emptiedInto (p.archive.store p.buffer).2) := by
  have hfalse : p.buffer.isEmpty = false := by simpa using h
  rw [storeBuffer, hfalse]
  rfl

/-- What is stored is the first piece of what waits. -/
theorem storeIfDue_of_due {p : Pipeline} (room : p.buffer.length < p.batchSize)
    (due : p.fill.2.isDue p.fill.1 = true) :
    p.fill.2.storeIfDue p.fill.1 =
      ((p.archive.store (p.waiting.take p.batchSize)).1,
        p.fill.2.emptiedInto (p.archive.store (p.waiting.take p.batchSize)).2) := by
  rw [storeIfDue, if_pos due, storeBuffer_of_ne (buffer_of_due room due), p.fill_buffer room]
  rfl

/-- **What a drain does** to a pipeline whose disk held some batches. It fails exactly if an offer is
    refused; otherwise nothing waits any more. -/
structure Drained (p : Pipeline) (batches : List (List Entry)) (result : Except RecorderError Unit)
    (after : Pipeline) (os : List Offer) : Prop where
  took : p.archive.Took after.archive batches os
  waiting : p.waiting = offered os ++ after.waiting
  buffer : after.buffer = []
  keeps : p.Keeps after
  done : result = .ok () ↔ lost os = []
  emptied : result = .ok () → after.waiting = []

/-- A pipeline in which nothing waits offers nothing. -/
theorem Drained.nothing {p : Pipeline} {batches : List (List Entry)} (h : p.archive.disk.Holds batches)
    (empty : p.waiting = []) : p.Drained batches (.ok ()) p [] :=
  { took := .nil h
    waiting := rfl
    buffer := (List.append_eq_nil_iff.1 empty).1
    keeps := .refl p
    done := ⟨fun _ => rfl, fun _ => rfl⟩
    emptied := fun _ => empty }

/-- An offer that is refused ends the drain. -/
theorem Drained.refused {p after : Pipeline} {batches : List (List Entry)} {entries : List Entry}
    {error : RecorderError} (took : p.archive.Took after.archive batches [⟨entries, false⟩])
    (waiting : p.waiting = entries ++ after.waiting) (buffer : after.buffer = [])
    (keeps : p.Keeps after) : p.Drained batches (.error error) after [⟨entries, false⟩] :=
  { took := took
    waiting := by rw [waiting, offered, List.flatMap_singleton]
    buffer := buffer
    keeps := keeps
    done := ⟨fun h => (nomatch h), fun h => (nomatch h)⟩
    emptied := fun h => (nomatch h) }

/-- After an offer that is taken the drain goes on. -/
theorem Drained.cons {p mid after : Pipeline} {batches : List (List Entry)} {entries : List Entry}
    {result : Except RecorderError Unit} {os : List Offer}
    (took : p.archive.Took mid.archive batches [⟨entries, true⟩])
    (waiting : p.waiting = entries ++ mid.waiting) (keeps : p.Keeps mid)
    (rest : mid.Drained (batches ++ [entries]) result after os) :
    p.Drained batches result after (⟨entries, true⟩ :: os) :=
  { took := took.append rest.took
    waiting := by
      rw [waiting, rest.waiting, ← List.append_assoc]
      rfl
    buffer := rest.buffer
    keeps := keeps.trans rest.keeps
    done := rest.done
    emptied := rest.emptied }

/-- What the rounds after this one make of a pipeline. -/
def Continues (p : Pipeline) (batches : List (List Entry)) : Prop :=
  p.Drained batches p.drain.1 p.drain.2 (offers p.batchSize p.archive.disk.batchFaults p.waiting)

/-- A round that stores a batch offers the first piece. -/
theorem continues_of_due (undoes : c.Undoes) {p : Pipeline} {batches : List (List Entry)}
    (h : p.archive.disk.Holds batches) (room : p.buffer.length < p.batchSize) (due : p.fill.2.isDue p.fill.1 = true)
    (next : p.fill.1 ≠ 0 → ∀ archive : Archive, archive.disk.Holds (batches ++ [p.waiting.take p.batchSize]) →
      (p.fill.2.emptiedInto archive).Continues (batches ++ [p.waiting.take p.batchSize])) :
    p.Continues batches := by
  have work : 0 < p.batchSize ∧ p.waiting ≠ [] :=
    ⟨Nat.zero_lt_of_lt room, waiting_ne_nil_of_due room due⟩
  have split : ∀ archive, p.waiting =
      p.waiting.take p.batchSize ++ (p.fill.2.emptiedInto archive).waiting := by
    intro archive
    rw [p.emptiedInto_waiting room, List.take_append_drop]
  unfold Continues
  rw [p.drain_eq, storeIfDue_of_due room due]
  cases fate : p.archive.disk.batchFaults.head?.join with
  | some fault =>
      obtain ⟨error, archive, hstore, took⟩ := Archive.store_of_fault undoes h _ fate
      rw [offers_of_fault work fate, hstore]
      exact Drained.refused took (split archive) rfl (p.emptiedInto_keeps archive)
  | none =>
      obtain ⟨archive, hstore, took⟩ := Archive.store_of_free undoes h _ fate
      have hfaults : archive.disk.batchFaults = p.archive.disk.batchFaults.drop 1 := took.faults
      rw [offers_of_free work fate, hstore, ← hfaults, ← p.emptiedInto_waiting room archive]
      apply Drained.cons took (split archive) (p.emptiedInto_keeps archive)
      by_cases none : p.fill.1 = 0
      · have last := p.emptiedInto_last room none archive
        simp only [none, if_true]
        rw [last, offers_nil]
        exact Drained.nothing took.holds last
      · simp only [if_neg none]
        exact next none archive took.holds

/-- A round that stores nothing offers nothing: either nothing waits, or everything waits in the buffer. -/
theorem continues_of_not_due {p : Pipeline} {batches : List (List Entry)}
    (h : p.archive.disk.Holds batches) (room : p.buffer.length < p.batchSize)
    (notDue : p.fill.2.isDue p.fill.1 = false)
    (next : p.fill.1 ≠ 0 → p.fill.2.buffer.length < p.batchSize → p.fill.2.Continues batches) :
    p.Continues batches := by
  obtain ⟨short, last⟩ := isDue_of_fill room notDue
  have hwaiting := p.fill_waiting room
  unfold Continues
  rw [p.drain_eq]
  unfold storeIfDue
  rw [if_neg (Bool.eq_false_iff.1 notDue)]
  by_cases none : p.fill.1 = 0
  · simp only [none, if_true]
    rw [last none, offers_nil]
    have nothing := Drained.nothing (p := p.fill.2) h (hwaiting.trans (last none))
    exact { nothing with
      waiting := hwaiting.symm
      keeps := p.fill_keeps }
  · simp only [if_neg none]
    have hbuffer : p.fill.2.buffer = p.waiting := by
      rw [p.fill_buffer room, List.take_of_length_le (Nat.le_of_lt short)]
    have rest := next none (hbuffer ▸ short)
    unfold Continues at rest
    rw [hwaiting] at rest
    exact { rest with
      waiting := hwaiting ▸ rest.waiting
      keeps := p.fill_keeps.trans rest.keeps }

/-- **Drain.** The offers are the pieces of what waits, and each has the fate that the disk gives it. -/
theorem drain_drained (undoes : c.Undoes) (p : Pipeline) {batches : List (List Entry)} (h : p.archive.disk.Holds batches)
    (room : p.buffer.length < p.batchSize) :
    p.Drained batches p.drain.1 p.drain.2
      (offers p.batchSize p.archive.disk.batchFaults p.waiting) := by
  -- Induction on the queue: a round that another one follows has taken something out of it.
  generalize hsize : p.queue.size = n
  induction n using Nat.strongRecOn generalizing p batches with
  | ind n ih =>
    have smaller : p.fill.1 ≠ 0 → p.fill.2.queue.size < n := by
      intro some
      have := p.fill_queue_size
      omega
    cases due : p.fill.2.isDue p.fill.1 with
    | true =>
        apply continues_of_due undoes h room due
        intro some archive holds
        apply ih _ (smaller some) (p.fill.2.emptiedInto archive) holds _ rfl
        exact Nat.lt_of_le_of_lt (Nat.zero_le _) room
    | false =>
        apply continues_of_not_due h room due
        intro some short
        exact ih _ (smaller some) p.fill.2 h short rfl

end Pipeline
end ProbeRecorder
