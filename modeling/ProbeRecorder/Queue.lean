import ProbeRecorder.Event
import ProbeRecorder.Number.Binary

/-!
# `ProbeRecorder.Queue` — the bounded hand-off to the writer

A full queue rejects an entry and hands it back; nothing waits.

## Contents
- **Queues.** `EntryQueue`, with `push`, `pop?` and `drain`.
- **Counters.** `QueueStats` and its rejection rate.
-/

namespace ProbeRecorder

/-- **Bounded queue** of log entries, oldest first, with what happened to it. The counters have no bound; those
    of a running queue are words of 64 bits. -/
structure EntryQueue where
  capacity : Nat
  entries : List Entry
  accepted : Nat
  removed : Nat
  rejected : Nat
  deriving DecidableEq, Repr

namespace EntryQueue

/-- An empty queue; it holds at least one entry. -/
def new (capacity : Nat) : EntryQueue := ⟨max capacity 1, [], 0, 0, 0⟩

def size (q : EntryQueue) : Nat := q.entries.length

def isEmpty (q : EntryQueue) : Bool := q.entries.isEmpty

def isFull (q : EntryQueue) : Bool := q.capacity ≤ q.size

/-- **Push.** The entry is handed back when the queue is full. -/
def push (q : EntryQueue) (e : Entry) : Except Entry Unit × EntryQueue :=
  if q.isFull then (.error e, { q with rejected := q.rejected + 1 })
  else (.ok (), { q with entries := q.entries ++ [e], accepted := q.accepted + 1 })

/-- **Pop** the oldest entry. -/
def pop? (q : EntryQueue) : Option Entry × EntryQueue :=
  match q.entries with
  | [] => (none, q)
  | e :: rest => (some e, { q with entries := rest, removed := q.removed + 1 })

/-- **Drain** at most `limit` entries, oldest first. -/
def drain (q : EntryQueue) (limit : Nat) : List Entry × EntryQueue :=
  let moved := q.entries.take limit
  (moved, { q with entries := q.entries.drop limit, removed := q.removed + moved.length })

end EntryQueue

/-- **Counters** of a queue at one time. -/
structure QueueStats where
  pushed : Nat
  popped : Nat
  dropped : Nat
  size : Nat
  capacity : Nat
  deriving DecidableEq, Repr

def EntryQueue.stats (q : EntryQueue) : QueueStats :=
  ⟨q.accepted, q.removed, q.rejected, q.size, q.capacity⟩

/-- **Rejected entries in percent** of those offered, in double precision: the count rounded, times a
    hundred, over the rounded number offered. Zero when nothing was offered. Counters are 64-bit words. -/
def rejectionRate (pushed dropped : UInt64) : UInt64 :=
  let fmt := Number.binary64
  if pushed + dropped = 0 then 0
  else
    let count := fmt.nearest ⟨dropped.toNat, 1⟩
    let hundred := fmt.nearest ⟨100, 1⟩
    let offered := fmt.nearest ⟨(pushed + dropped).toNat, 1⟩
    (fmt.div (fmt.mul count hundred) offered).toUInt64

def QueueStats.rejectionRate (s : QueueStats) : UInt64 :=
  ProbeRecorder.rejectionRate s.pushed.toUInt64 s.dropped.toUInt64

end ProbeRecorder
