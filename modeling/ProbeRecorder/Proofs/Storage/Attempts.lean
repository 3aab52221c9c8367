import Mathlib.Algebra.GroupWithZero.Nat
import Mathlib.Algebra.Ring.Int.Defs
import Mathlib.Tactic.Push
import ProbeRecorder.Proofs.Storage.Stored

/-!
# `ProbeRecorder.Proofs.Storage.Attempts` — what a storage answers after any attempts

A storage is opened on an empty disk; then batches are written to it, and it is opened again, in any order.
Every write may meet a fault. What the storage answers depends on the successful writes alone, in their
order: a batch that was refused leaves at most a file, in the place where the next batch goes.

## Contents
- **Attempts.** `StorageCall`, `Disk.attempt`; `StoredBatch`, what a successful write stored.
- **Answers.** `Disk.answers`, all that is read from a storage; `StoredBatch.answers`, what it should be.
- **Sums.** `StoredBatch.sumCounts_eq`: totals are found if each sum of the first counts is a signed number.
- **Storing.** `Disk.Stores`, kept by every attempt (`Stores.attempt`), and its answers (`Stores.answers`).
- **Runs.** `Disk.attempts_stored`; a sum that is too large (`Disk.stats_overflow`).
-/

namespace ProbeRecorder

/-! ## Attempts -/

/-- **A call of a storage** that has been opened. -/
inductive StorageCall where
  | reopen
  | write (content : Bytes) (entryCount : UInt64)

/-- **What a successful write stored**, and the number it was given. -/
structure StoredBatch where
  number : Int
  content : Bytes
  entryCount : UInt64
  deriving DecidableEq, Repr

namespace Disk

/-- An empty disk, and the faults that the writes will meet. -/
def faulty (faults : List (Option BatchFault)) : Disk := { blank with batchFaults := faults }

/-- The fault that a call meets. -/
def faultOf (d : Disk) : StorageCall → Option BatchFault
  | .reopen => none
  | .write _ _ => d.batchFaults.head?.join

/-- **A call**, and what was stored if it was a write. The index keeps counts as signed numbers. -/
def attempt (d : Disk) : StorageCall → Except RecorderError (List StoredBatch) × Disk
  | .reopen => (d.prepare.1.map fun () => [], d.prepare.2)
  | .write content entryCount =>
    let written := d.writeBatch content entryCount.toInt64
    (written.1.map fun number => [⟨number, content, entryCount⟩], written.2)

theorem attempt_reopen (d : Disk) :
    d.attempt .reopen = (d.prepare.1.map fun () => [], d.prepare.2) := rfl

theorem attempt_write (d : Disk) (content : Bytes) (entryCount : UInt64) :
    d.attempt (.write content entryCount) =
      ((d.writeBatch content entryCount.toInt64).1.map fun number => [⟨number, content, entryCount⟩],
        (d.writeBatch content entryCount.toInt64).2) := rfl

/-- **The disk after some calls.** -/
def afterCalls (d : Disk) : List StorageCall → Disk
  | [] => d
  | call :: rest => (d.attempt call).2.afterCalls rest

/-- **The successful writes** among some calls. -/
def stored (d : Disk) : List StorageCall → List StoredBatch
  | [] => []
  | call :: rest => (d.attempt call).1.toOption.getD [] ++ (d.attempt call).2.stored rest

end Disk

/-! ## Answers -/

/-- **All that is read** from a storage. -/
structure StorageAnswers where
  rows : Except RecorderError (List BatchRow)
  batch : Int → Except RecorderError Bytes
  totals : Except RecorderError Disk.Totals
  entries : Except RecorderError (List Entry)

def Disk.answers [Compression] (d : Disk) : StorageAnswers := ⟨d.batchRows, d.readBatch, d.stats, d.readEntries⟩

namespace StoredBatch

/-- The row of a batch in the index. -/
def row (b : StoredBatch) : BatchRow := ⟨b.number, b.entryCount.toInt64, b.content.length⟩

/-- The sum of the first counts, as the index keeps them. -/
def signedSum (stored : List StoredBatch) (first : Nat) : Int :=
  ((stored.take first).map (·.entryCount.toInt64.toInt)).sum

/-- **The counts can be added up**: every sum of the first of them is a signed 64-bit integer. -/
def Summable (stored : List StoredBatch) : Prop :=
  ∀ first ≤ stored.length, (Number.signed 64).contains (signedSum stored first) = true

instance (stored : List StoredBatch) : Decidable (Summable stored) :=
  decidable_of_iff (∀ first < stored.length + 1, (Number.signed 64).contains (signedSum stored first) = true)
    (by simp only [Summable, Nat.lt_succ_iff])

/-- Their number and sums. The entries are counted with 64 bits. -/
def totals (stored : List StoredBatch) : Disk.Totals where
  batches := stored.length
  entries := UInt64.ofNat (stored.map (·.entryCount.toNat)).sum
  classes := 0
  size := (stored.map (·.content.length)).sum

/-- **What a storage should answer** that holds some batches. -/
def answers [c : Compression] (stored : List StoredBatch) : StorageAnswers where
  rows := .ok (stored.map row)
  batch number :=
    match stored.find? (·.number = number) with
    | some b => .ok b.content
    | none => .error (Disk.storageError "Batch not found")
  totals :=
    if Summable stored then .ok (totals stored) else .error (Disk.storageError "Stats query failed")
  entries := (stored.mapM fun b => c.read b.content).map List.flatten

end StoredBatch

/-! ## Sums -/

namespace Disk

/-- A sum is found if every sum on the way is a signed number of 64 bits. -/
theorem sumCounts_of_contains : ∀ (counts : List Int64) (total : Int),
    (∀ first ≤ counts.length,
      (Number.signed 64).contains (total + ((counts.take first).map Int64.toInt).sum) = true) →
    sumCounts total counts = some (total + (counts.map Int64.toInt).sum) := by
  intro counts
  induction counts with
  | nil =>
      intro total _
      simp [sumCounts]
  | cons n rest ih =>
      intro total fits
      have next : (Number.signed 64).contains (total + n.toInt) = true := by
        simpa using fits 1 (by simp)
      have later := ih (total + n.toInt) fun first bound => by
        have := fits (first + 1) (Nat.succ_le_succ bound)
        simpa [Int.add_assoc] using this
      unfold sumCounts
      simp only [next, if_true, later, List.map_cons, List.sum_cons, Int.add_assoc]

/-- No sum is found once one is too large. -/
theorem sumCounts_of_not_contains : ∀ (counts : List Int64) (total : Int),
    (Number.signed 64).contains total = true →
    ∀ first ≤ counts.length,
      (Number.signed 64).contains (total + ((counts.take first).map Int64.toInt).sum) = false →
    sumCounts total counts = none := by
  intro counts
  induction counts with
  | nil =>
      intro total now first _ large
      simp [now] at large
  | cons n rest ih =>
      intro total now first bound large
      unfold sumCounts
      by_cases next : (Number.signed 64).contains (total + n.toInt) = true
      · simp only [next, if_true]
        cases first with
        | zero => simp [now] at large
        | succ first =>
            refine ih (total + n.toInt) next first (Nat.le_of_succ_le_succ bound) ?_
            simpa [Int.add_assoc] using large
      · simp only [next, Bool.false_eq_true, if_false]

end Disk

namespace StoredBatch

/-- **Adding up the counts**, as the index keeps them. -/
theorem sumCounts_eq (stored : List StoredBatch) :
    Disk.sumCounts 0 (stored.map (·.entryCount.toInt64)) =
      if Summable stored then some (signedSum stored stored.length) else none := by
  have sums : ∀ first, 0 + (((stored.map (·.entryCount.toInt64)).take first).map Int64.toInt).sum =
      signedSum stored first := by
    intro first
    rw [Int.zero_add, ← List.map_take, List.map_map]
    rfl
  by_cases summable : Summable stored
  · rw [if_pos summable, ← sums, List.take_of_length_le (by simp)]
    refine Disk.sumCounts_of_contains _ 0 fun first bound => ?_
    rw [sums]
    exact summable first (by simpa using bound)
  · rw [if_neg summable]
    unfold Summable at summable
    push Not at summable
    obtain ⟨first, bound, large⟩ := summable
    refine Disk.sumCounts_of_not_contains _ 0 (by decide) first (by simpa using bound) ?_
    rw [sums]
    exact (Bool.not_eq_true _).mp large

/-- Signed or not, the counts have the same sum of 64 bits. -/
theorem toUInt64_signedSum (stored : List StoredBatch) :
    (Int64.ofInt (signedSum stored stored.length)).toUInt64 =
      UInt64.ofNat (stored.map (·.entryCount.toNat)).sum := by
  unfold signedSum
  rw [List.take_length]
  induction stored with
  | nil => rfl
  | cons b rest ih =>
      simp only [List.map_cons, List.sum_cons, Int64.ofInt_add, UInt64.ofNat_add, Int64.toUInt64_add, ih]
      simp

/-- Counts that are small together are kept as they are. -/
theorem sum_toInt_of_lt (stored : List StoredBatch)
    (small : (stored.map (·.entryCount.toNat)).sum < 9223372036854775808) :
    (stored.map (·.entryCount.toInt64.toInt)).sum = (stored.map (·.entryCount.toNat)).sum := by
  induction stored with
  | nil => rfl
  | cons b rest ih =>
      simp only [List.map_cons, List.sum_cons] at small ⊢
      have wide : 2 * b.entryCount.toBitVec.toNat < 2 ^ 64 := by
        have : b.entryCount.toBitVec.toNat = b.entryCount.toNat := rfl
        omega
      have head : b.entryCount.toInt64.toInt = b.entryCount.toNat := BitVec.toInt_eq_toNat_of_lt wide
      rw [ih (by omega), head, Int.natCast_add]

/-- **Counts that are small together** can be added up. -/
theorem summable_of_sum_lt {stored : List StoredBatch}
    (small : (stored.map (·.entryCount.toNat)).sum < 9223372036854775808) : Summable stored := by
  intro first _
  have split : ((stored.take first).map (·.entryCount.toNat)).sum +
      ((stored.drop first).map (·.entryCount.toNat)).sum = (stored.map (·.entryCount.toNat)).sum := by
    rw [← List.sum_append, ← List.map_append, List.take_append_drop]
  have low : (Number.signed 64).low = -9223372036854775808 := by decide
  have high : (Number.signed 64).high = 9223372036854775807 := by decide
  rw [Number.Range.contains_iff, low, high]
  unfold signedSum
  rw [sum_toInt_of_lt _ (by omega)]
  omega

end StoredBatch

/-! ## Storing -/

namespace Disk

variable {d : Disk} {files : FiniteMap Int Bytes} {stored : List StoredBatch}

/-- **A disk stores batches**: the index has their rows, numbered from one on, and the files of these numbers
    have their contents. There may be other files. -/
structure Stores (d : Disk) (files : FiniteMap Int Bytes) (stored : List StoredBatch) : Prop where
  folder : d.folder = .directory files
  database : d.database = .file ⟨some (stored.map StoredBatch.row), some .empty⟩
  numbered : stored.map (·.number) = batchNumbers stored.length
  kept : ∀ b ∈ stored, files.get? b.number = some b.content

theorem Stores.tables (h : d.Stores files stored) :
    d.tables = ⟨some (stored.map StoredBatch.row), some .empty⟩ := by
  unfold Disk.tables
  rw [h.database]

/-- A file under the next number disturbs no batch that is stored. -/
theorem Stores.kept_put (h : d.Stores files stored) (content : Bytes) :
    ∀ b ∈ stored, (files.put (stored.length + 1) content).get? b.number = some b.content := by
  intro b hb
  have bound : b.number ≤ stored.length := le_of_mem_batchNumbers (h.numbered ▸ List.mem_map_of_mem hb)
  rw [FiniteMap.get?_put, if_neg (by omega)]
  exact h.kept b hb

theorem Stores.nextSequence (h : d.Stores files stored) :
    nextSequence (stored.map StoredBatch.row) = stored.length + 1 := by
  refine nextSequence_eq ?_
  rw [List.map_map, ← h.numbered]
  rfl

/-- An empty disk opens. -/
theorem stores_prepare_faulty (faults : List (Option BatchFault)) :
    ∃ opened, (faulty faults).prepare = (.ok (), opened) ∧ opened.Stores .empty [] :=
  ⟨_, rfl, rfl, rfl, rfl, fun _ hb => nomatch hb⟩

/-! ### Calls -/

/-- **Opening again** changes nothing that is stored. -/
theorem Stores.reopen (h : d.Stores files stored) :
    (d.attempt .reopen).1 = .ok [] ∧ (d.attempt .reopen).2.Stores files stored := by
  rw [attempt_reopen, prepare_of_used h.folder h.database]
  exact ⟨rfl, h.folder, h.database, h.numbered, h.kept⟩

/-- **A write that meets no fault** takes the next number, and its batch is stored behind the others. A file
    that a refused batch left in its place is replaced. -/
theorem Stores.write_taken (h : d.Stores files stored) (content : Bytes) (entryCount : UInt64)
    (free : d.faultOf (.write content entryCount) = none) :
    (d.attempt (.write content entryCount)).1 = .ok [⟨stored.length + 1, content, entryCount⟩] ∧
      (d.attempt (.write content entryCount)).2.Stores (files.put (stored.length + 1) content)
        (stored ++ [⟨stored.length + 1, content, entryCount⟩]) := by
  rw [attempt_write, writeBatch_of_free h.folder h.database content _ free, h.nextSequence]
  refine ⟨rfl, rfl, ?_, ?_, ?_⟩
  · show Database.file _ = Database.file _
    rw [List.map_append]
    rfl
  · rw [List.map_append, h.numbered, List.length_append]
    exact (batchNumbers_succ _).symm
  · intro b hb
    rcases List.mem_append.mp hb with old | new
    · exact h.kept_put content b old
    · obtain rfl := List.mem_singleton.mp new
      show (files.put (stored.length + 1) content).get? (stored.length + 1) = some content
      rw [FiniteMap.get?_put, if_pos rfl]

/-- **A write that meets a fault** is refused, wherever the fault comes, and the same batches are stored. -/
theorem Stores.write_refused (h : d.Stores files stored) (content : Bytes) (entryCount : UInt64)
    {fault : BatchFault} (meets : d.faultOf (.write content entryCount) = some fault) :
    (d.attempt (.write content entryCount)).1 = .error fault.error ∧
      ∃ files', (d.attempt (.write content entryCount)).2.Stores files' stored := by
  rw [attempt_write, writeBatch_of_fault h.folder h.database content _ meets, h.nextSequence]
  refine ⟨rfl, _, rfl, h.database, h.numbered, ?_⟩
  split
  · -- The file was written before its row was refused.
    exact h.kept_put content
  · exact h.kept

/-- **Any call**: what is stored after it, and whether it is refused. -/
theorem Stores.attempt (h : d.Stores files stored) (call : StorageCall) :
    (∃ files', (d.attempt call).2.Stores files' (stored ++ (d.attempt call).1.toOption.getD [])) ∧
      (d.faultOf call = none → ∃ batches, (d.attempt call).1 = .ok batches) ∧
      ∀ fault, d.faultOf call = some fault → (d.attempt call).1 = .error fault.error := by
  cases call with
  | reopen =>
      obtain ⟨reply, stores⟩ := h.reopen
      rw [reply]
      refine ⟨⟨files, ?_⟩, fun _ => ⟨_, rfl⟩, fun _ meets => nomatch meets⟩
      show (d.attempt .reopen).2.Stores files (stored ++ [])
      rw [List.append_nil]
      exact stores
  | write content entryCount =>
      cases meets : d.faultOf (.write content entryCount) with
      | none =>
          obtain ⟨reply, stores⟩ := h.write_taken content entryCount meets
          rw [reply]
          exact ⟨⟨_, stores⟩, fun _ => ⟨_, rfl⟩, fun _ other => nomatch other⟩
      | some fault =>
          obtain ⟨reply, files', stores⟩ := h.write_refused content entryCount meets
          rw [reply]
          refine ⟨⟨files', ?_⟩, ?_, ?_⟩
          · show (d.attempt (.write content entryCount)).2.Stores files' (stored ++ [])
            rw [List.append_nil]
            exact stores
          · intro free
            cases free
          · intro other same
            rw [Option.some.inj same]

/-- **Any calls**: what was stored before, and behind it what was written. -/
theorem Stores.afterCalls : ∀ (calls : List StorageCall) {d : Disk} {files : FiniteMap Int Bytes}
    {stored : List StoredBatch}, d.Stores files stored →
    ∃ files', (d.afterCalls calls).Stores files' (stored ++ d.stored calls) := by
  intro calls
  induction calls with
  | nil =>
      intro d files stored h
      refine ⟨files, ?_⟩
      show d.Stores files (stored ++ [])
      rw [List.append_nil]
      exact h
  | cons call rest ih =>
      intro d files stored h
      obtain ⟨⟨files', stores⟩, _⟩ := h.attempt call
      obtain ⟨last, result⟩ := ih stores
      refine ⟨last, ?_⟩
      rw [Disk.stored, ← List.append_assoc]
      exact result

/-! ### Reading -/

/-- Reading one after the other depends on what is read only. -/
theorem mapM_congr {α β ε : Type} {f g : α → Except ε β} {as : List α} (h : ∀ a ∈ as, f a = g a) :
    as.mapM f = as.mapM g := by
  induction as with
  | nil => rfl
  | cons a rest ih =>
      have tail := ih fun b hb => h b (List.mem_cons_of_mem a hb)
      rw [List.mapM_cons, List.mapM_cons, h a List.mem_cons_self, tail]

/-- Reading a batch finds its row, and then its file. -/
theorem Stores.readBatch_of_mem (h : d.Stores files stored) {b : StoredBatch} (hb : b ∈ stored) :
    d.readBatch b.number = .ok b.content := by
  have listed : ((stored.map StoredBatch.row).any fun row => decide (row.sequence = b.number)) = true :=
    List.any_eq_true.mpr ⟨b.row, List.mem_map_of_mem hb, decide_eq_true rfl⟩
  unfold Disk.readBatch readFile?
  rw [h.tables, h.folder]
  simp only [Option.getD_some, listed, if_true, h.kept b hb]

section Answers

variable [c : Compression]

/-- **Reading any number**; what has no row is not found, even if there is a file. -/
theorem Stores.readBatch (h : d.Stores files stored) : d.readBatch = (StoredBatch.answers stored).batch := by
  funext number
  unfold StoredBatch.answers
  cases found : stored.find? fun b => decide (b.number = number) with
  | some b =>
      obtain rfl : b.number = number := by simpa using List.find?_some found
      simp only [found]
      exact h.readBatch_of_mem (List.mem_of_find?_eq_some found)
  | none =>
      have unlisted : ((stored.map StoredBatch.row).any fun row => decide (row.sequence = number)) = false := by
        rw [List.any_map, List.any_eq_false]
        exact List.find?_eq_none.mp found
      simp only [found]
      unfold Disk.readBatch
      rw [h.tables]
      simp only [Option.getD_some, unlisted, Bool.false_eq_true, if_false]

theorem Stores.stats (h : d.Stores files stored) : d.stats = (StoredBatch.answers stored).totals := by
  have sizes : ∀ (batches : List StoredBatch) (n : Nat),
      (batches.map StoredBatch.row).foldl (fun n row => n + row.size) n =
        n + (batches.map (·.content.length)).sum := by
    intro batches
    induction batches with
    | nil => exact fun n => rfl
    | cons b rest ih =>
        intro n
        rw [List.map_cons, List.foldl_cons, ih, List.map_cons, List.sum_cons, ← Nat.add_assoc]
        rfl
  have counts : (stored.map StoredBatch.row).map (·.entryCount) = stored.map (·.entryCount.toInt64) := by
    rw [List.map_map]
    rfl
  unfold Disk.stats
  rw [h.tables]
  simp only [counts, StoredBatch.sumCounts_eq, sizes, StoredBatch.answers]
  by_cases summable : StoredBatch.Summable stored
  · rw [if_pos summable, if_pos summable]
    simp [StoredBatch.toUInt64_signedSum]
    rfl
  · rw [if_neg summable, if_neg summable]

theorem Stores.readEntries (h : d.Stores files stored) :
    d.readEntries = (StoredBatch.answers stored).entries := by
  have decoded : ∀ b ∈ stored, d.entriesOf b.row = c.read b.content := by
    intro b hb
    show (d.readBatch b.number).bind c.read = c.read b.content
    rw [h.readBatch_of_mem hb]
    rfl
  have rows : d.batchRows = .ok (stored.map StoredBatch.row) := by
    unfold Disk.batchRows
    rw [h.tables]
  have all : (stored.map StoredBatch.row).mapM d.entriesOf = stored.mapM fun b => c.read b.content := by
    rw [List.mapM_map]
    exact mapM_congr decoded
  unfold Disk.readEntries
  rw [rows]
  show (do let batches ← (stored.map StoredBatch.row).mapM d.entriesOf; return batches.flatten) = _
  rw [all]
  show _ = (stored.mapM fun b => c.read b.content).map List.flatten
  cases stored.mapM fun b => c.read b.content <;> rfl

/-- **What a storage answers** is settled by what is stored. -/
theorem Stores.answers (h : d.Stores files stored) : d.answers = StoredBatch.answers stored := by
  have rows : d.batchRows = (StoredBatch.answers stored).rows := by
    unfold Disk.batchRows
    rw [h.tables]
    rfl
  unfold Disk.answers
  rw [rows, h.readBatch, h.stats, h.readEntries]

/-! ## Runs -/

/-- **An attempt** fails exactly if it meets a fault, and says which; and then it changes no answer. -/
structure Settles (d : Disk) (call : StorageCall) : Prop where
  taken : d.faultOf call = none → ∃ batches, (d.attempt call).1 = .ok batches
  refused : ∀ fault, d.faultOf call = some fault → (d.attempt call).1 = .error fault.error
  unchanged : ∀ e, (d.attempt call).1 = .error e → (d.attempt call).2.answers = d.answers

theorem Stores.settles (h : d.Stores files stored) (call : StorageCall) : d.Settles call := by
  obtain ⟨⟨files', stores⟩, taken, refused⟩ := h.attempt call
  refine ⟨taken, refused, fun e failed => ?_⟩
  rw [failed] at stores
  have same : (d.attempt call).2.Stores files' (stored ++ []) := stores
  rw [List.append_nil] at same
  rw [same.answers, h.answers]

/-- **A storage keeps its batches.** Whatever is attempted with a storage and whatever faults its writes meet:
    it opens; the successful writes are numbered from one on; its answers are those of the successful
    writes, with totals at least as long as all entries together are a signed 64-bit number; and an attempt
    fails exactly if it meets a fault, which changes no answer. -/
theorem attempts_stored (faults : List (Option BatchFault)) (calls : List StorageCall) :
    ∃ opened, (faulty faults).prepare = (.ok (), opened) ∧
      (opened.stored calls).map (·.number) = batchNumbers (opened.stored calls).length ∧
      (opened.afterCalls calls).answers = StoredBatch.answers (opened.stored calls) ∧
      (((opened.stored calls).map (·.entryCount.toNat)).sum < 9223372036854775808 →
        (opened.afterCalls calls).stats = .ok (StoredBatch.totals (opened.stored calls))) ∧
      ∀ pre call post, calls = pre ++ call :: post → (opened.afterCalls pre).Settles call := by
  obtain ⟨opened, prepared, empty⟩ := stores_prepare_faulty faults
  obtain ⟨files, stores⟩ := Stores.afterCalls calls empty
  refine ⟨opened, prepared, stores.numbered, stores.answers, ?_, ?_⟩
  · intro small
    have summable : StoredBatch.Summable (opened.stored calls) := StoredBatch.summable_of_sum_lt small
    rw [stores.stats]
    exact if_pos summable
  · intro pre call post _
    obtain ⟨files', before⟩ := Stores.afterCalls pre empty
    exact before.settles call

end Answers

/-- Three writes, of which the second is refused at its row, and then the storage is opened again. -/
def retriedCalls : List StorageCall := [.write [97] 1, .write [98] 5, .reopen, .write [99] 2]

theorem attempts_stored_retried :
    ∃ opened, (faulty [none, some .row]).prepare = (.ok (), opened) ∧
      opened.stored retriedCalls = [⟨1, [97], 1⟩, ⟨2, [99], 2⟩] ∧
      (opened.afterCalls retriedCalls).answers = StoredBatch.answers [⟨1, [97], 1⟩, ⟨2, [99], 2⟩] ∧
      (opened.afterCalls retriedCalls).stats = .ok ⟨2, 3, 0, 2⟩ ∧
      (opened.afterCalls [.write [97] 1]).faultOf (.write [98] 5) = some .row ∧
      (opened.afterCalls [.write [97] 1]).Settles (.write [98] 5) := by
  obtain ⟨opened, prepared, _, answers, totals, settles⟩ :=
    attempts_stored [none, some .row] retriedCalls
  obtain rfl := (Prod.mk.inj prepared).2
  exact ⟨_, rfl, by decide, answers, totals (by decide), rfl, settles [.write [97] 1] _ _ rfl⟩

/-- Two writes whose counts are too large together. -/
def largeCounts : List StorageCall := [.write [97] 9223372036854775807, .write [98] 1]

/-- **A sum that is too large**: both batches are stored, and there are no totals. -/
theorem stats_overflow :
    ∃ opened, (faulty []).prepare = (.ok (), opened) ∧
      opened.stored largeCounts = [⟨1, [97], 9223372036854775807⟩, ⟨2, [98], 1⟩] ∧
      (opened.afterCalls largeCounts).stats = .error (storageError "Stats query failed") ∧
      (opened.afterCalls largeCounts).stats ≠ .ok ⟨2, 9223372036854775808, 0, 2⟩ :=
  ⟨_, rfl, by decide, by decide, by decide⟩

end Disk

end ProbeRecorder
