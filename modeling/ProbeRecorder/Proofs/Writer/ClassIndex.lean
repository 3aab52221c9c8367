import ProbeRecorder.Proofs.Writer.Rounds
import ProbeRecorder.Proofs.Writer.SameLog

/-!
# `ProbeRecorder.Proofs.Writer.ClassIndex` — the listed classes and the log

The rows of the registrations of a batch are written after the batch itself, one by one, and each replaces the
row that its class had. The disk may refuse a row; the registration stays in the log then, without a row. So
what is listed is told by the log and by the refusals, in the order of the log, and neither by the cuts
between batches and between writers nor by the batches that were lost.

## Contents
- **Rows.** `RowWrite`, `rowWrites` of a log; the last row of a class (`lastRow?`), and the rows that were
  refused (`refusedRows`).
- **One row.** `Disk.Lists`, kept by every row (`Disk.Lists.recordClass`) and by what else is done to a disk.
- **Batches.** `Archive.Listed`, for one batch (`Archive.store_listed_of_ok`, `Archive.store_listed_of_error`)
  and for the pieces of a drain (`Archive.listed_of_cuts`).
- **Sessions.** `LogSession.Sound.act_listed`, of every call.
- **Listing.** `IsClassIndex`, of the rows that a disk gives (`Disk.Lists.classRows`).
- **Runs.** `LogHistory.ListsClasses`, of every run (`LogHistory.run_listsClasses`).
-/

namespace ProbeRecorder

/-! ## Rows -/

/-- **The row of a registration**, the session that stored it, and whether the disk refused it. -/
structure RowWrite where
  session : Nat
  classId : ClassId
  probes : List ProbeId
  refused : Bool
  deriving DecidableEq, Repr

/-- The row says the first probe of the class and how many there are. -/
def RowWrite.row (w : RowWrite) : ClassRow := ⟨w.probes.head?, w.probes.length⟩

/-- **The rows of a log**, one for each registration in it; each meets the next refusal. -/
def rowWrites : List Bool → List (Nat × Entry) → List RowWrite
  | _, [] => []
  | refusals, (_, .event _) :: rest => rowWrites refusals rest
  | refusals, (k, .weave classId probes) :: rest =>
    ⟨k, classId, probes, refusals.headD false⟩ :: rowWrites (refusals.drop 1) rest

/-- The refusals that the rows of a log leave. -/
def refusalsAfter (refusals : List Bool) (log : List (Nat × Entry)) : List Bool :=
  refusals.drop (rowWrites refusals log).length

/-- **The last row** of a class that was not refused. -/
def lastRow? (writes : List RowWrite) (c : ClassId) : Option ClassRow :=
  (writes.reverse.find? fun w => w.classId = c && !w.refused).map RowWrite.row

/-- **The number of rows** of a session that were refused. -/
def refusedRows (k : Nat) (refusals : List Bool) (log : List (Nat × Entry)) : Nat :=
  (rowWrites refusals log).countP fun w => w.session = k && w.refused

theorem rowWrites_append (refusals : List Bool) (log more : List (Nat × Entry)) :
    rowWrites refusals (log ++ more) =
      rowWrites refusals log ++ rowWrites (refusalsAfter refusals log) more := by
  unfold refusalsAfter
  induction log generalizing refusals with
  | nil => rfl
  | cons x rest ih =>
      obtain ⟨k, e⟩ := x
      cases e with
      | event e => exact ih refusals
      | weave classId probes =>
          rw [List.cons_append, rowWrites, rowWrites, ih, List.drop_drop, List.length_cons, Nat.add_comm 1]
          rfl

theorem refusalsAfter_append (refusals : List Bool) (log more : List (Nat × Entry)) :
    refusalsAfter refusals (log ++ more) = refusalsAfter (refusalsAfter refusals log) more := by
  rw [refusalsAfter, rowWrites_append, List.length_append, ← List.drop_drop]
  rfl

theorem refusedRows_append (k : Nat) (refusals : List Bool) (log more : List (Nat × Entry)) :
    refusedRows k refusals (log ++ more) =
      refusedRows k refusals log + refusedRows k (refusalsAfter refusals log) more := by
  rw [refusedRows, rowWrites_append, List.countP_append]
  rfl

theorem refusedRows_weave (k : Nat) (refusals : List Bool) (classId : ClassId) (probes : List ProbeId) :
    refusedRows k refusals [(k, .weave classId probes)] = if refusals.headD false then 1 else 0 := by
  show List.countP _ [_] = _
  rw [List.countP_singleton]
  simp

/-- A row is that of an entry of its session. -/
theorem exists_of_mem_rowWrites {refusals : List Bool} {log : List (Nat × Entry)} {w : RowWrite}
    (h : w ∈ rowWrites refusals log) : ∃ x ∈ log, x.1 = w.session := by
  fun_induction rowWrites refusals log with
  | case1 => exact absurd h List.not_mem_nil
  | case2 refusals k e rest ih =>
      obtain ⟨x, hx, same⟩ := ih h
      exact ⟨x, List.mem_cons_of_mem _ hx, same⟩
  | case3 refusals k classId probes rest ih =>
      rcases List.mem_cons.1 h with rfl | h
      · exact ⟨_, List.mem_cons_self, rfl⟩
      · obtain ⟨x, hx, same⟩ := ih h
        exact ⟨x, List.mem_cons_of_mem _ hx, same⟩

/-- A session without entries has no row. -/
theorem refusedRows_of_ne {k : Nat} (refusals : List Bool) {log : List (Nat × Entry)}
    (others : ∀ x ∈ log, x.1 ≠ k) : refusedRows k refusals log = 0 := by
  refine List.countP_eq_zero.2 fun w hw => ?_
  obtain ⟨x, hx, same⟩ := exists_of_mem_rowWrites hw
  simp [← same, others x hx]

/-- A row that is not refused takes the place of the one before. -/
theorem lastRow?_concat (writes : List RowWrite) (w : RowWrite) (c : ClassId) :
    lastRow? (writes ++ [w]) c =
      if w.classId = c ∧ w.refused = false then some w.row else lastRow? writes c := by
  unfold lastRow?
  rw [List.reverse_append, List.reverse_singleton, List.singleton_append, List.find?_cons]
  by_cases own : w.classId = c <;> cases refused : w.refused <;> simp [own]

/-- A class has a last row exactly if some row of it was not refused. -/
theorem isSome_lastRow? {writes : List RowWrite} {c : ClassId} :
    (lastRow? writes c).isSome = true ↔ ∃ w ∈ writes, w.classId = c ∧ w.refused = false := by
  unfold lastRow?
  simp

/-- The first row is refused; class 3 has the row of its next registration, and class 4 one without an
    anchor. -/
example :
    let writes := rowWrites [true] [(0, .weave 3 [30, 31]), (0, .weave 4 []), (1, .weave 3 [32])]
    lastRow? writes 3 = some ⟨some 32, 1⟩ ∧ lastRow? writes 4 = some ⟨none, 0⟩ := by
  decide

/-! ## One row -/

namespace Disk

variable {d : Disk} {refusals : List Bool} {log : List (Nat × Entry)}

/-- **A disk lists the classes of a log**: each has the last row that was not refused, and the refusals that
    the log has met are gone. -/
structure Lists (d : Disk) (refusals : List Bool) (log : List (Nat × Entry)) : Prop where
  rows : ∃ rows, d.tables.classes = some rows ∧ ∀ c, rows.get? c = lastRow? (rowWrites refusals log) c
  refusals : d.rowRefusals = refusalsAfter refusals log

/-- Disks with the same rows and refusals. -/
theorem Lists.of_eq {after : Disk} (h : d.Lists refusals log) (rows : after.tables.classes = d.tables.classes)
    (same : after.rowRefusals = d.rowRefusals) : after.Lists refusals log :=
  ⟨rows ▸ h.rows, same.trans h.refusals⟩

/-- An event has no row. -/
theorem Lists.event (h : d.Lists refusals log) (k : Nat) (e : Event) :
    d.Lists refusals (log ++ [(k, .event e)]) := by
  have same : rowWrites refusals (log ++ [(k, .event e)]) = rowWrites refusals log := by
    rw [rowWrites_append]
    exact List.append_nil _
  obtain ⟨rows, left⟩ := h
  refine ⟨same ▸ rows, ?_⟩
  rw [refusalsAfter, same]
  exact left

/-- **The row of a registration** is refused if the next refusal says so; then the rows stay as they are. -/
theorem Lists.recordClass (h : d.Lists refusals log) (k : Nat) (classId : ClassId) (probes : List ProbeId) :
    ∃ answer after, d.recordClass classId probes = (answer, after) ∧
      (answer = .ok () ↔ (refusalsAfter refusals log).headD false = false) ∧
      after.Lists refusals (log ++ [(k, .weave classId probes)]) := by
  obtain ⟨⟨rows, present, last⟩, left⟩ := h
  have writes : rowWrites refusals (log ++ [(k, .weave classId probes)]) =
      rowWrites refusals log ++ [⟨k, classId, probes, (refusalsAfter refusals log).headD false⟩] :=
    rowWrites_append refusals log [(k, .weave classId probes)]
  have next : refusalsAfter refusals (log ++ [(k, .weave classId probes)]) =
      (refusalsAfter refusals log).drop 1 := refusalsAfter_append refusals log [(k, .weave classId probes)]
  unfold Disk.recordClass
  simp only [present, left]
  cases refused : (refusalsAfter refusals log).headD false with
  | true =>
      refine ⟨_, _, rfl, by simp, ⟨rows, present, fun c => ?_⟩, next.symm⟩
      rw [writes, lastRow?_concat, refused, if_neg (by simp)]
      exact last c
  | false =>
      refine ⟨_, _, rfl, by simp, ⟨rows.put classId ⟨probes.head?, probes.length⟩, rfl, fun c => ?_⟩,
        next.symm⟩
      rw [writes, lastRow?_concat, FiniteMap.get?_put, last, refused]
      by_cases own : c = classId
      · subst own
        simp [RowWrite.row]
      · simp [own, eq_comm (a := classId)]

/-- Writing a batch touches no row of a class. -/
theorem Lists.writeBatch [Compression] (h : d.Lists refusals log) {batches : List (List Entry)} (holds : d.Holds batches)
    (content : Bytes) (entryCount : Int64) : (d.writeBatch content entryCount).2.Lists refusals log := by
  obtain ⟨files, rows, classes, folder, database, -⟩ := holds
  cases fate : d.batchFaults.head?.join with
  | none =>
      rw [writeBatch_of_free folder database content entryCount fate]
      exact h.of_eq (by simp [tables, database]) rfl
  | some fault =>
      rw [writeBatch_of_fault folder database content entryCount fate]
      exact h.of_eq rfl rfl

/-- Opening a disk again touches no row of a class. -/
theorem Lists.prepare [Compression] (h : d.Lists refusals log) {batches : List (List Entry)} (holds : d.Holds batches) :
    d.prepare.2.Lists refusals log := by
  obtain ⟨files, rows, classes, folder, database, -⟩ := holds
  rw [prepare_of_used folder database]
  exact h.of_eq rfl rfl

/-- A new disk lists no class. -/
theorem Lists.of_missing (folder : d.folder = .missing) (database : d.database = .missing) :
    d.prepare.2.Lists d.rowRefusals [] := by
  obtain ⟨_, _, outdated, faults, refusals⟩ := d
  subst folder database
  exact ⟨⟨.empty, rfl, fun _ => rfl⟩, rfl⟩

end Disk

/-! ## Batches -/

/-- **What storing does to the rows**: those of the entries that a session stored follow those of the log, and the
    refused ones are counted. -/
structure Archive.Listed (a a' : Archive) (refusals : List Bool) (log : List (Nat × Entry)) (k : Nat)
    (more : List Entry) : Prop where
  lists : a'.disk.Lists refusals (log ++ more.map (k, ·))
  failures : a'.classFailures =
    a.classFailures + refusedRows k (refusalsAfter refusals log) (more.map (k, ·))

namespace Archive

variable {a b c : Archive} {refusals : List Bool} {log : List (Nat × Entry)}

theorem Listed.nil (h : a.disk.Lists refusals log) (k : Nat) : a.Listed a refusals log k [] :=
  ⟨(List.append_nil log).symm ▸ h, rfl⟩

/-- Entries add up. -/
theorem Listed.append {k : Nat} {first next : List Entry} (h : a.Listed b refusals log k first)
    (h' : b.Listed c refusals (log ++ first.map (k, ·)) k next) : a.Listed c refusals log k (first ++ next) := by
  constructor
  · rw [List.map_append, ← List.append_assoc]
    exact h'.lists
  · rw [h'.failures, h.failures, refusalsAfter_append, List.map_append, refusedRows_append, Nat.add_assoc]

/-- **One entry.** -/
theorem storeRow_listed (h : a.disk.Lists refusals log) (k : Nat) (e : Entry) :
    a.Listed (a.storeRow e) refusals log k [e] := by
  cases e with
  | event e => exact ⟨h.event k e, rfl⟩
  | weave classId probes =>
      obtain ⟨answer, after, recorded, fate, lists⟩ := h.recordClass k classId probes
      have counts := refusedRows_weave k (refusalsAfter refusals log) classId probes
      unfold storeRow
      simp only [recorded]
      cases refused : (refusalsAfter refusals log).headD false with
      | false =>
          obtain rfl := fate.2 refused
          rw [refused] at counts
          exact ⟨lists, congrArg (a.classFailures + ·) counts.symm⟩
      | true =>
          cases answer with
          | ok done =>
              rw [fate.1 rfl] at refused
              cases refused
          | error error =>
              rw [refused] at counts
              exact ⟨lists, congrArg (a.classFailures + ·) counts.symm⟩

/-- **Entry after entry.** -/
theorem foldl_storeRow_listed (entries : List Entry) (h : a.disk.Lists refusals log) (k : Nat) :
    a.Listed (entries.foldl storeRow a) refusals log k entries := by
  induction entries generalizing a log with
  | nil => exact .nil h k
  | cons e rest ih =>
      have first := storeRow_listed h k e
      exact first.append (ih first.lists)

section Store

variable [compression : Compression] {batches : List (List Entry)} {entries : List Entry} {after : Archive}

/-- **A batch that is stored** has its rows written, one after the other. -/
theorem store_listed_of_ok (h : a.disk.Lists refusals log) (holds : a.disk.Holds batches) (k : Nat)
    (stored : a.store entries = (.ok (), after)) : a.Listed after refusals log k entries := by
  unfold store at stored
  split at stored
  · cases stored
  · rename_i content encoded
    have written := h.writeBatch holds content entries.length.toInt64
    dsimp only at stored
    split at stored
    · rename_i number disk answer
      rw [answer] at written
      obtain rfl := congrArg Prod.snd stored
      have rows := foldl_storeRow_listed entries (a := { a with disk := disk }) written k
      exact ⟨rows.lists, rows.failures⟩
    · cases stored

/-- **A batch that is dropped** has no rows. -/
theorem store_listed_of_error (h : a.disk.Lists refusals log) (holds : a.disk.Holds batches) (k : Nat)
    {error : RecorderError} (stored : a.store entries = (.error error, after)) :
    a.Listed after refusals log k [] := by
  unfold store at stored
  split at stored
  · obtain rfl := congrArg Prod.snd stored
    have same := Listed.nil h k
    exact ⟨same.lists, same.failures⟩
  · rename_i content encoded
    have written := h.writeBatch holds content entries.length.toInt64
    dsimp only at stored
    split at stored
    · cases stored
    · rename_i error disk answer
      rw [answer] at written
      obtain rfl := congrArg Prod.snd stored
      have same := Listed.nil (a := { a with disk := disk }) written k
      exact ⟨same.lists, same.failures⟩

/-- **The rows of the pieces** that the archive takes, until it refuses one. -/
theorem listed_of_cuts (undoes : compression.Undoes) {size : Nat} {waiting left : List Entry}
    {tried : List Answered} {result : Except RecorderError Unit}
    (h : Cuts size a waiting tried result b left) (positive : 0 < size)
    (lists : a.disk.Lists refusals log) (holds : a.disk.Holds batches) (k : Nat) :
    a.Listed b refusals log k (taken (offers size a.disk.batchFaults waiting)).flatten := by
  -- The archive answers as the faults of its disk say, so that the pieces it takes are the offers taken.
  induction h generalizing log batches with
  | done a =>
      rw [offers_nil]
      exact .nil lists k
  | @refused a b waiting error some stored =>
      cases fate : a.disk.batchFaults.head?.join with
      | none =>
          obtain ⟨after, free, -⟩ := store_of_free undoes holds (waiting.take size) fate
          rw [free] at stored
          cases stored
      | some fault =>
          rw [offers_of_fault ⟨positive, some⟩ fate]
          exact store_listed_of_error lists holds k stored
  | @taken a b c waiting left more result some stored rest ih =>
      cases fate : a.disk.batchFaults.head?.join with
      | none =>
          obtain ⟨after, free, took⟩ := store_of_free undoes holds (waiting.take size) fate
          obtain rfl : after = b := congrArg Prod.snd (free.symm.trans stored)
          have first := store_listed_of_ok lists holds k stored
          have faults : after.disk.batchFaults = a.disk.batchFaults.drop 1 := took.faults
          rw [offers_of_free ⟨positive, some⟩ fate, ← faults]
          exact first.append (ih first.lists took.holds)
      | some fault =>
          obtain ⟨error, after, refused, -⟩ := store_of_fault undoes holds (waiting.take size) fate
          rw [refused] at stored
          cases stored

end Store
end Archive

/-! ## Sessions -/

section Calls

variable [compression : Compression] {batches : List (List Entry)} {refusals : List Bool}
  {log : List (Nat × Entry)}

/-- **The rows of a drain.** -/
theorem Pipeline.drain_listed (undoes : compression.Undoes) (p : Pipeline)
    (room : p.buffer.length < p.batchSize) (lists : p.archive.disk.Lists refusals log)
    (holds : p.archive.disk.Holds batches) (k : Nat) :
    p.archive.Listed p.drain.2.archive refusals log k
      (taken (offers p.batchSize p.archive.disk.batchFaults p.waiting)).flatten := by
  obtain ⟨tried, cuts⟩ := (p.drain_runs room).cuts
  exact Archive.listed_of_cuts undoes cuts (Nat.zero_lt_of_lt room) lists holds k

namespace LogSession

variable {s : LogSession}

def archive (s : LogSession) : Archive := s.writer.pipeline.archive

/-- **Every call** of a session has the rows of the batches that it stores. -/
theorem Sound.act_listed (undoes : compression.Undoes) (h : s.Sound) (holds : s.disk.Holds batches)
    (lists : s.disk.Lists refusals log) (k : Nat) (call : LogCall) :
    s.archive.Listed (s.act call).2.archive refusals log k (taken (s.offering call)).flatten := by
  have tried := s.act_tried call
  have offers (os : List Offer) (same : (s.act call).2.tried = s.tried ++ os) : s.offering call = os :=
    List.append_cancel_left (tried.symm.trans same)
  rcases s.act_cases call with ⟨phase, same⟩ | ⟨queue, accepted, queued⟩ | ⟨running, phase, drains⟩
  · rw [offers [] (by rw [same, List.append_nil]), same]
    exact .nil lists k
  · rw [offers [] (by rw [queued, List.append_nil]), queued]
    exact .nil lists k
  · rw [offers s.pending (by rw [drains]; rfl), drains, pending, running]
    exact s.writer.pipeline.drain_listed undoes h.ready.room lists holds k

end LogSession
end Calls

/-! ## Listing -/

/-- **A listing of the rows** of a log: by class, in ascending order, each with its last row that was not
    refused. -/
structure IsClassIndex (listed : List (ClassId × ClassRow)) (writes : List RowWrite) : Prop where
  ascending : listed.Pairwise fun a b => a.1 < b.1
  classes : ∀ c, c ∈ listed.map Prod.fst ↔ ∃ w ∈ writes, w.classId = c ∧ w.refused = false
  last : ∀ c row, (c, row) ∈ listed ↔ lastRow? writes c = some row

/-- **Listing** gives the rows of the log. -/
theorem Disk.Lists.classRows {d : Disk} {refusals : List Bool} {log : List (Nat × Entry)}
    (h : d.Lists refusals log) :
    ∃ listed, d.classRows = .ok listed ∧ IsClassIndex listed (rowWrites refusals log) := by
  obtain ⟨⟨rows, present, last⟩, -⟩ := h
  have sorts := List.mergeSort_perm rows.bindings fun a b => a.1.toInt ≤ b.1.toInt
  have mem (c : ClassId) (row : ClassRow) :
      (c, row) ∈ rows.bindings.mergeSort (fun a b => a.1.toInt ≤ b.1.toInt) ↔
        lastRow? (rowWrites refusals log) c = some row := by
    rw [sorts.mem_iff, rows.mem_bindings_iff, last]
  refine ⟨_, by rw [Disk.classRows, present], ?_, ?_, mem⟩
  · have distinct : (rows.bindings.mergeSort fun a b => a.1.toInt ≤ b.1.toInt).Pairwise
        fun a b => a.1 ≠ b.1 := List.pairwise_map.1 ((sorts.map Prod.fst).nodup_iff.2 rows.nodup)
    have ordered : (rows.bindings.mergeSort fun a b => a.1.toInt ≤ b.1.toInt).Pairwise
        fun a b => decide (a.1.toInt ≤ b.1.toInt) = true := by
      apply List.pairwise_mergeSort
      · intro a b c ab bc
        exact decide_eq_true (Int.le_trans (of_decide_eq_true ab) (of_decide_eq_true bc))
      · intro a b
        simpa using Int.le_total a.1.toInt b.1.toInt
    refine (ordered.and distinct).imp ?_
    rintro a b ⟨le, ne⟩
    rw [Int32.lt_iff_toInt_lt]
    exact Int.lt_iff_le_and_ne.2 ⟨of_decide_eq_true le, fun same => ne (Int32.toInt_inj.1 same)⟩
  · intro c
    rw [← isSome_lastRow?, Option.isSome_iff_exists]
    simp [mem]

/-! ## Runs -/

namespace LogHistory

variable {h : LogHistory} {refusals : List Bool}

/-- **The rows of a history**: the disk lists those of the log, and every session counts its refused ones. -/
structure Lists (h : LogHistory) (refusals : List Bool) : Prop where
  disk : h.disk.Lists refusals h.log
  counts : ∀ k s, h.sessions[k]? = some s →
    s.writer.stats.classFailures = refusedRows k refusals h.log

/-- **Another writer** begins with the rows of the disk that it opened, and has refused none. -/
theorem lists_of_reopen (opened : h.disk.prepare.2.Lists refusals h.log)
    (counts : ∀ k s, h.sessions[k]? = some s → s.writer.stats.classFailures = refusedRows k refusals h.log)
    (offers : ∀ x ∈ h.offers, x.1 < h.sessions.length) {settings : WriterSettings} {after : LogHistory}
    (reopened : h.reopen settings = .ok after) : after.Lists refusals := by
  obtain ⟨writer, made, ended⟩ := bind_eq_ok_iff.1 reopened
  cases ended
  obtain ⟨disk, none⟩ : writer.disk = h.disk.prepare.2 ∧ writer.stats.classFailures = 0 := by
    rw [LogWriter.new] at made
    split at made
    · cases made
    · rename_i opened prepares
      cases made
      rw [prepares]
      exact ⟨rfl, rfl⟩
  constructor
  · rw [disk]
    exact opened
  · intro k s there
    rcases session_of_reopen there with ⟨rfl, rfl⟩ | ⟨before, earlier, rfl⟩
    · show writer.stats.classFailures = refusedRows _ refusals h.log
      rw [none, refusedRows_of_ne]
      intro x hx
      obtain ⟨o, ho, same⟩ := exists_offer_of_mem_logged hx
      exact same ▸ Nat.ne_of_lt (offers o ho)
    · exact counts k before earlier

/-- The first writer lists no class. -/
theorem lists_of_start {settings : WriterSettings} {disk : Disk} (folder : disk.folder = .missing)
    (database : disk.database = .missing) (started : start settings disk = .ok h) :
    h.Lists disk.rowRefusals := by
  refine lists_of_reopen (Disk.Lists.of_missing folder database) (fun k s there => ?_) (fun x hx => ?_) started
  · cases there
  · exact absurd hx List.not_mem_nil

section Running

variable [compression : Compression]

/-- **A call** of one writer. -/
theorem Lists.ask (undoes : compression.Undoes) (lists : h.Lists refusals) (sound : h.Sound) (k : Nat)
    (call : LogCall) : (h.ask k call).Lists refusals := by
  cases found : h.sessions[k]? with
  | none => rwa [ask_of_none found]
  | some s =>
    obtain ⟨good, knows⟩ := sound.sessions k s found
    have listed := good.act_listed undoes (sound.session_holds found) (knows.disk ▸ lists.disk) k call
    have log : (h.ask k call).log = h.log ++ (taken (s.offering call)).flatten.map (k, ·) := by
      rw [LogHistory.log, ask_of_found found]
      exact logged_append h.offers k (s.offering call)
    constructor
    · rw [log, ask_of_found found]
      exact listed.lists
    · intro j t there
      rw [log, refusedRows_append]
      rcases session_of_ask found call there with ⟨rfl, rfl⟩ | ⟨other, before, earlier, rfl⟩
      · rw [← lists.counts j s found]
        exact listed.failures
      · -- The rows of another session are not those of this one.
        rw [← lists.counts j before earlier, refusedRows_of_ne]
        · rfl
        · intro x hx
          obtain ⟨e, -, rfl⟩ := List.mem_map.1 hx
          exact Ne.symm other

/-- **Every run** keeps them. -/
theorem Lists.foldlM (undoes : compression.Undoes) (lists : h.Lists refusals) (sound : h.Sound)
    {actions : List LogAction} {last : LogHistory} (ran : actions.foldlM LogHistory.step h = .ok last) :
    last.Lists refusals := by
  induction actions generalizing h with
  | nil =>
      cases ran
      exact lists
  | cons action rest ih =>
      obtain ⟨next, stepped, steps⟩ := bind_eq_ok_iff.1 ran
      refine ih ?_ (sound.of_step undoes stepped) steps
      cases action with
      | call k call =>
          cases stepped
          exact lists.ask undoes sound k call
      | reopen settings =>
          exact lists_of_reopen (lists.disk.prepare sound.holds) lists.counts sound.offers stepped

/-- **The listed classes agree with the log.** What is listed are the rows of the log that is read back, less
    those that the disk refused; every registration in it has met its refusal, and none that was dropped with
    its batch has. Every session counts its refused rows. They are no failures: a drain is done if the disk
    takes its batches. -/
structure ListsClasses (h : LogHistory) (refusals : List Bool) : Prop where
  readBack : h.disk.readEntries = .ok (h.log.map Prod.snd)
  listed : ∃ listed, h.disk.classRows = .ok listed ∧ IsClassIndex listed (rowWrites refusals h.log)
  met : h.disk.rowRefusals = refusalsAfter refusals h.log
  failures : ∀ k s, h.sessions[k]? = some s →
    s.writer.stats.classFailures = refusedRows k refusals h.log
  flush : ∀ s ∈ h.sessions, s.writer.phase = .running →
    ((s.act .flush).1 = .ok () ↔ lost s.pending = [])
  shutdown : ∀ s ∈ h.sessions, s.writer.phase = .running →
    ((s.act .shutdown).1 = .ok () ↔ lost s.pending = [])

theorem Lists.listsClasses (undoes : compression.Undoes) (lists : h.Lists refusals) (sound : h.Sound) :
    h.ListsClasses refusals := by
  have attempts (s : LogSession) (hs : s ∈ h.sessions) : s.Attempts :=
    (sound.session_sound hs).1.attempts undoes (sound.session_sound hs).2
  exact {
    readBack := sound.readEntries
    listed := lists.disk.classRows
    met := lists.disk.refusals
    failures := lists.counts
    flush := fun s hs running => ((attempts s hs).flush running).done
    shutdown := fun s hs running => ((attempts s hs).shutdown running).1.done }

/-- **Class index.** Whatever is asked of the writers over one folder, with whatever settings, and whichever
    batches and rows the disk refuses, the listed classes agree with the log. The refused rows concern nothing
    else: if the disk had refused none, the same log would be read back, and every call of every writer would
    have the same answer. -/
theorem run_listsClasses (undoes : compression.Undoes) (settings : WriterSettings)
    (faults : List (Option BatchFault)) (refusals : List Bool) (actions : List LogAction) :
    ∃ h, run settings { Disk.blank with batchFaults := faults, rowRefusals := refusals } actions =
      .ok h ∧ h.ListsClasses refusals ∧
      ∃ calm, run settings { Disk.blank with batchFaults := faults } actions = .ok calm ∧
        calm.disk.readEntries = h.disk.readEntries ∧
        List.Forall₂ (fun s t => ∀ call, (LogSession.act s call).1 = (LogSession.act t call).1)
          h.sessions calm.sessions := by
  obtain ⟨first, started, sound, -⟩ := exists_start_sound settings
    { Disk.blank with batchFaults := faults, rowRefusals := refusals } rfl rfl
  have lists := lists_of_start rfl rfl started
  obtain ⟨last, steps, sound'⟩ := sound.foldlM undoes actions
  have agrees := (lists.foldlM undoes sound steps).listsClasses undoes sound'
  have ran : run settings { Disk.blank with batchFaults := faults, rowRefusals := refusals } actions =
      .ok last := bind_eq_ok_iff.2 ⟨first, started, steps⟩
  have apart : Disk.SameLog { Disk.blank with batchFaults := faults, rowRefusals := refusals }
      { Disk.blank with batchFaults := faults } := ⟨rfl, rfl, rfl⟩
  obtain ⟨calm, ranCalm, same⟩ := exists_sameLog_run apart ran
  have readBack := agrees.readBack
  refine ⟨last, ran, agrees, calm, ranCalm, ?_, same.sessions.imp fun s t alike call => (alike.act call).answer⟩
  rw [readBack, same.disk.readEntries_iff.mp readBack]

end Running

/-- In batches of one, the second of which the disk refuses; of the rows it refuses the first one. -/
theorem run_listsClasses_refused :
    Compression.frames.Undoes ∧
      ∃ h, run ⟨1, 8, .fast⟩ { Disk.blank with batchFaults := [none, some .file], rowRefusals := [true] }
          [.call 0 .start, .call 0 (.record (.weave 3 [30, 31])), .call 0 .flush,
            .call 0 (.record (.weave 4 [])), .reopen ⟨4, 8, .best⟩, .call 0 .shutdown,
            .call 1 .start, .call 1 (.record (.weave 3 [32])), .call 1 .shutdown] = .ok h ∧
        ∃ listed, h.disk.classRows = .ok listed ∧ IsClassIndex listed (rowWrites [true] h.log) := by
  obtain ⟨h, ran, agrees, -⟩ := run_listsClasses Compression.frames_undoes ⟨1, 8, .fast⟩ [none, some .file] [true]
    [.call 0 .start, .call 0 (.record (.weave 3 [30, 31])), .call 0 .flush,
      .call 0 (.record (.weave 4 [])), .reopen ⟨4, 8, .best⟩, .call 0 .shutdown,
      .call 1 .start, .call 1 (.record (.weave 3 [32])), .call 1 .shutdown]
  exact ⟨Compression.frames_undoes, h, ran, agrees.listed⟩

end LogHistory
end ProbeRecorder
