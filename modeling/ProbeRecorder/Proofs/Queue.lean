import ProbeRecorder.Queue

/-!
# `ProbeRecorder.Proofs.Queue` — what goes into a queue and what comes out

Threads push into a queue, and its owner pops or drains it. Nothing is lost on the way, nothing comes twice or
in another order, and the counters say what happened.

## Contents
- **Calls.** `QueueCall`, `QueueReply`, and one call (`EntryQueue.serve`).
- **One call.** `EntryQueue.Serves`, all that a call can do, with one rule for each case (`serves`).
- **Runs.** `QueueExchange` and the entries that go in, out, or back; `EntryQueue.exchanges`.
- **Conservation.** `EntryQueue.Accounts`, kept by every call (`Accounts.serve`) and by every run
  (`Accounts.run`); `EntryQueue.Conserves`, of every queue and every run (`run_conserves`).
-/

namespace ProbeRecorder

/-! ## Calls -/

/-- **A call** of a queue. -/
inductive QueueCall where
  | push (e : Entry)
  | pop
  /-- At most `limit` entries are appended to `out`. -/
  | drain (out : List Entry) (limit : Nat)

/-- An entry is offered. -/
def QueueCall.isPush : QueueCall → Bool
  | push _ => true
  | _ => false

/-- **What a call gives back.** -/
inductive QueueReply where
  | pushed (result : Except Entry Unit)
  | popped (e : Option Entry)
  /-- How many entries were moved, and the output with them. -/
  | drained (moved : Nat) (out : List Entry)

namespace EntryQueue

/-- **One call**: its reply, and the queue after it. -/
def serve (q : EntryQueue) : QueueCall → QueueReply × EntryQueue
  | .push e => (.pushed (q.push e).1, (q.push e).2)
  | .pop => (.popped q.pop?.1, q.pop?.2)
  | .drain out limit => (.drained (q.drain limit).1.length (out ++ (q.drain limit).1), (q.drain limit).2)

/-! ## One call -/

/-- **All that a call can do** to a queue that holds at most `capacity` entries. -/
inductive Serves (capacity : Nat) (q : EntryQueue) : QueueCall → QueueReply → EntryQueue → Prop
  /-- The very entry is handed back, and the queue is as it was. -/
  | rejected (e : Entry) (full : q.size = capacity) :
      Serves capacity q (.push e) (.pushed (.error e)) { q with rejected := q.rejected + 1 }
  | accepted (e : Entry) (room : q.size < capacity) :
      Serves capacity q (.push e) (.pushed (.ok ()))
        { q with entries := q.entries ++ [e], accepted := q.accepted + 1 }
  | empty (nothing : q.entries = []) : Serves capacity q .pop (.popped none) q
  | popped (e : Entry) (rest : List Entry) (first : q.entries = e :: rest) :
      Serves capacity q .pop (.popped (some e)) { q with entries := rest, removed := q.removed + 1 }
  | drained (out moved rest : List Entry) (limit : Nat) (oldest : q.entries = moved ++ rest)
      (count : moved.length = min limit q.size) :
      Serves capacity q (.drain out limit) (.drained moved.length (out ++ moved))
        { q with entries := rest, removed := q.removed + moved.length }

variable {capacity : Nat} {q : EntryQueue}

/-- **Every call** of a queue that is within its bounds. -/
theorem serves (limited : q.capacity = capacity) (bounded : q.size ≤ capacity) (call : QueueCall) :
    q.Serves capacity call (q.serve call).1 (q.serve call).2 := by
  subst limited
  cases call with
  | push e =>
      by_cases full : q.size = q.capacity
      · have rejected : q.push e = (.error e, { q with rejected := q.rejected + 1 }) :=
          if_pos (decide_eq_true (Nat.le_of_eq full.symm))
        rw [serve, rejected]
        exact .rejected e full
      · have room : q.size < q.capacity := Nat.lt_of_le_of_ne bounded full
        have accepted : q.push e =
            (.ok (), { q with entries := q.entries ++ [e], accepted := q.accepted + 1 }) :=
          if_neg fun h => Nat.not_le_of_lt room (of_decide_eq_true h)
        rw [serve, accepted]
        exact .accepted e room
  | pop =>
      obtain ⟨capacity, entries, accepted, removed, rejected⟩ := q
      cases entries with
      | nil => exact .empty rfl
      | cons e rest => exact .popped e rest rfl
  | drain out limit =>
      exact .drained out (q.entries.take limit) (q.entries.drop limit) limit
        (List.take_append_drop limit q.entries).symm List.length_take

end EntryQueue

/-! ## Runs -/

/-- **A call and its reply.** -/
structure QueueExchange where
  call : QueueCall
  reply : QueueReply

namespace QueueExchange

/-- The entry that goes in. -/
def accepted : QueueExchange → List Entry
  | ⟨.push e, .pushed (.ok _)⟩ => [e]
  | _ => []

/-- The entry that is handed back. -/
def rejected : QueueExchange → List Entry
  | ⟨.push _, .pushed (.error e)⟩ => [e]
  | _ => []

/-- The entries that come out; those of a drain are what its output has grown by. -/
def removed : QueueExchange → List Entry
  | ⟨.pop, .popped e⟩ => e.toList
  | ⟨.drain before _, .drained _ out⟩ => out.drop before.length
  | _ => []

end QueueExchange

/-- The entries that go in, in push order. -/
def acceptedIn (xs : List QueueExchange) : List Entry := xs.flatMap QueueExchange.accepted

/-- The entries that are handed back. -/
def rejectedIn (xs : List QueueExchange) : List Entry := xs.flatMap QueueExchange.rejected

/-- The entries that come out, in the order they come. -/
def removedIn (xs : List QueueExchange) : List Entry := xs.flatMap QueueExchange.removed

/-- How many entries are offered. -/
def offeredIn (xs : List QueueExchange) : Nat := xs.countP fun x => x.call.isPush

/-- An exchange comes last. -/
theorem acceptedIn_concat (xs : List QueueExchange) (x : QueueExchange) :
    acceptedIn (xs ++ [x]) = acceptedIn xs ++ x.accepted := by
  simp [acceptedIn]

theorem rejectedIn_concat (xs : List QueueExchange) (x : QueueExchange) :
    rejectedIn (xs ++ [x]) = rejectedIn xs ++ x.rejected := by
  simp [rejectedIn]

theorem removedIn_concat (xs : List QueueExchange) (x : QueueExchange) :
    removedIn (xs ++ [x]) = removedIn xs ++ x.removed := by
  simp [removedIn]

theorem offeredIn_concat (xs : List QueueExchange) (x : QueueExchange) :
    offeredIn (xs ++ [x]) = offeredIn xs + if x.call.isPush then 1 else 0 := by
  simp [offeredIn]

namespace EntryQueue

/-- **The exchanges of a run.** -/
def exchanges (q : EntryQueue) : List QueueCall → List QueueExchange
  | [] => []
  | call :: rest => ⟨call, (q.serve call).1⟩ :: (q.serve call).2.exchanges rest

/-- The queue after a run. -/
def after (q : EntryQueue) : List QueueCall → EntryQueue
  | [] => q
  | call :: rest => (q.serve call).2.after rest

/-! ## Conservation -/

variable {capacity : Nat} {q q' : EntryQueue} {xs : List QueueExchange}

/-- **One call moves entries and counts them.** -/
structure Moves (q : EntryQueue) (x : QueueExchange) (q' : EntryQueue) : Prop where
  conserved : x.removed ++ q'.entries = q.entries ++ x.accepted
  accepted : q'.accepted = q.accepted + x.accepted.length
  removed : q'.removed = q.removed + x.removed.length
  rejected : q'.rejected = q.rejected + x.rejected.length
  /-- A push is answered in one of two ways. -/
  offered : (x.accepted ++ x.rejected).length = if x.call.isPush then 1 else 0
  capacity : q'.capacity = q.capacity

theorem Serves.moves {call : QueueCall} {reply : QueueReply} (served : q.Serves capacity call reply q') :
    q.Moves ⟨call, reply⟩ q' := by
  cases served with
  | rejected e full => exact ⟨(List.append_nil _).symm, rfl, rfl, rfl, rfl, rfl⟩
  | accepted e room => exact ⟨rfl, rfl, rfl, rfl, rfl, rfl⟩
  | empty nothing => exact ⟨(List.append_nil _).symm, rfl, rfl, rfl, rfl, rfl⟩
  | popped e rest first => exact ⟨first.symm.trans (List.append_nil _).symm, rfl, rfl, rfl, rfl, rfl⟩
  | drained out moved rest limit oldest count =>
      have grown : QueueExchange.removed ⟨.drain out limit, .drained moved.length (out ++ moved)⟩ = moved :=
        List.drop_left
      refine ⟨?_, rfl, ?_, rfl, rfl, rfl⟩
      · rw [grown, ← oldest]
        exact (List.append_nil _).symm
      · rw [grown]

/-- A call keeps a queue within its bounds. -/
theorem Serves.bounded {call : QueueCall} {reply : QueueReply} (served : q.Serves capacity call reply q')
    (bounded : q.size ≤ capacity) : q'.size ≤ capacity := by
  unfold size at bounded ⊢
  cases served with
  | rejected e full => exact bounded
  | accepted e room =>
      rw [List.length_append]
      exact room
  | empty nothing => exact bounded
  | popped e rest first =>
      rw [first, List.length_cons] at bounded
      exact Nat.le_of_succ_le bounded
  | drained out moved rest limit oldest count =>
      rw [oldest, List.length_append] at bounded
      exact Nat.le_trans (Nat.le_add_left _ _) bounded

/-- **The books of a queue** after some exchanges. -/
structure Accounts (capacity : Nat) (xs : List QueueExchange) (q : EntryQueue) : Prop where
  limited : q.capacity = capacity
  bounded : q.size ≤ capacity
  conserved : removedIn xs ++ q.entries = acceptedIn xs
  accepted : q.accepted = (acceptedIn xs).length
  removed : q.removed = (removedIn xs).length
  rejected : q.rejected = (rejectedIn xs).length
  offered : (acceptedIn xs).length + (rejectedIn xs).length = offeredIn xs

theorem new_accounts (capacity : Nat) : (new capacity).Accounts (max capacity 1) [] :=
  ⟨rfl, Nat.zero_le _, rfl, rfl, rfl, rfl, rfl⟩

/-- **One more call.** -/
theorem Accounts.serve (books : q.Accounts capacity xs) (call : QueueCall) :
    (q.serve call).2.Accounts capacity (xs ++ [⟨call, (q.serve call).1⟩]) := by
  have served := serves books.limited books.bounded call
  have moves := served.moves
  generalize q.serve call = answer at served moves ⊢
  obtain ⟨reply, q'⟩ := answer
  have offered := moves.offered
  rw [List.length_append] at offered
  exact {
    limited := moves.capacity.trans books.limited
    bounded := served.bounded books.bounded
    conserved := by
      rw [removedIn_concat, acceptedIn_concat, List.append_assoc, moves.conserved, ← List.append_assoc,
        books.conserved]
    accepted := by rw [moves.accepted, books.accepted, acceptedIn_concat, List.length_append]
    removed := by rw [moves.removed, books.removed, removedIn_concat, List.length_append]
    rejected := by rw [moves.rejected, books.rejected, rejectedIn_concat, List.length_append]
    offered := by
      rw [acceptedIn_concat, rejectedIn_concat, offeredIn_concat, ← books.offered, ← offered,
        List.length_append, List.length_append]
      omega }

/-- **Any number of calls.** -/
theorem Accounts.run (calls : List QueueCall) : ∀ {q : EntryQueue} {xs : List QueueExchange},
    q.Accounts capacity xs → (q.after calls).Accounts capacity (xs ++ q.exchanges calls) := by
  induction calls with
  | nil =>
      intro q xs books
      rw [exchanges, List.append_nil]
      exact books
  | cons call rest ih =>
      intro q xs books
      rw [exchanges, after, List.append_cons]
      exact ih (books.serve call)

/-- **A queue conserves its entries** in a run, after which `q` is left and which made the exchanges `xs`. -/
structure Conserves (capacity : Nat) (xs : List QueueExchange) (q : EntryQueue) : Prop where
  /-- What came out, and then what is waiting, is what went in. -/
  conserved : removedIn xs ++ q.entries = acceptedIn xs
  bounded : q.size ≤ capacity
  balanced : q.stats.pushed = q.stats.popped + q.stats.size
  offered : q.stats.pushed + q.stats.dropped = offeredIn xs
  /-- The next call, whichever it is. -/
  next : ∀ call, q.Serves capacity call (q.serve call).1 (q.serve call).2

/-- **Every queue conserves its entries**; no capacity counts as one. -/
theorem run_conserves (capacity : Nat) (calls : List QueueCall) :
    Conserves (max capacity 1) ((new capacity).exchanges calls) ((new capacity).after calls) := by
  have books := (new_accounts capacity).run calls
  rw [List.nil_append] at books
  refine ⟨books.conserved, books.bounded, ?_, ?_, serves books.limited books.bounded⟩
  · show ((new capacity).after calls).accepted = ((new capacity).after calls).removed + _
    rw [books.accepted, books.removed, ← books.conserved, List.length_append]
    rfl
  · show ((new capacity).after calls).accepted + ((new capacity).after calls).rejected = _
    rw [books.accepted, books.rejected, books.offered]

end EntryQueue
end ProbeRecorder
