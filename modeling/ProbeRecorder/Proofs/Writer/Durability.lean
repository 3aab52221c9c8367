import Mathlib.Data.List.Perm.Subperm
import ProbeRecorder.Proofs.Writer.Sessions

/-!
# `ProbeRecorder.Proofs.Writer.Durability` — what the log keeps

One folder outlives the writers that work on it. A history is what was asked of them, while the disk refuses
whatever batches and rows it likes. A writer that was given up may still be at work: opening the next one
waits for nothing, so that calls come to any of the writers, and a worker may drain what it has long after the
next one was opened. A call is one step; workers that write at the same moment are not looked at.

## Contents
- **Parts.** Of a list in which every element has an owner, `partOf` is what belongs to one of them. Lists are
  compared by their parts (`subperm_of_parts`, `perm_of_parts`), in order if the owners take turns
  (`sublist_of_parts`).
- **Histories.** `LogAction`; `LogHistory.ask`, `LogHistory.step`, `LogHistory.run`. What was asked for:
  `LogHistory.recordings`, and whether it was asked of one writer after the other (`LogHistory.InTurn`).
- **Steps.** `LogHistory.Sound`, kept by every step (`LogHistory.Sound.step`).
- **Runs.** Every run is sound (`LogHistory.exists_run_sound`); calls in turn make sessions that took turns
  (`LogHistory.Sound.tookTurns_of_foldlM`).
- **Durability.** `LogHistory.Durable`, of every run (`LogHistory.run_durable`). A session that is not over may
  come behind a later one (`LogHistory.run_outOfTurn`).
-/

namespace ProbeRecorder

/-! ## Parts -/

section Parts

variable {α : Type}

/-- **What belongs to one owner.** -/
def partOf (k : Nat) (l : List (Nat × α)) : List α := (l.filter (·.1 = k)).map Prod.snd

theorem partOf_append (k : Nat) (l more : List (Nat × α)) :
    partOf k (l ++ more) = partOf k l ++ partOf k more := by
  rw [partOf, List.filter_append, List.map_append]
  rfl

theorem partOf_own (k : Nat) (as : List α) : partOf k (as.map (k, ·)) = as := by
  rw [partOf, List.filter_eq_self.2 (by simp), List.map_map]
  exact List.map_id as

theorem partOf_other {k j : Nat} (other : j ≠ k) (as : List α) : partOf j (as.map (k, ·)) = [] := by
  rw [partOf, List.filter_eq_nil_iff.2 (by simp [Ne.symm other]), List.map_nil]

/-- Nothing belongs to an owner who comes after all others. -/
theorem partOf_of_lt {k : Nat} {l : List (Nat × α)} (before : ∀ x ∈ l, x.1 < k) : partOf k l = [] := by
  rw [partOf, List.filter_eq_nil_iff.2, List.map_nil]
  intro x hx
  have := before x hx
  simp only [decide_eq_true_eq]
  omega

theorem count_partOf [DecidableEq α] (k : Nat) (a : α) (l : List (Nat × α)) :
    l.count (k, a) = (partOf k l).count a := by
  induction l with
  | nil => rfl
  | cons x rest ih =>
      obtain ⟨j, b⟩ := x
      rw [partOf] at ih ⊢
      by_cases own : j = k <;> by_cases same : b = a <;> simp_all

/-- **Every element once**: a list of which every part is in the part of another. -/
theorem subperm_of_parts {l more : List (Nat × α)}
    (parts : ∀ k, (partOf k l).Sublist (partOf k more)) : l.Subperm more := by
  classical
  rw [List.subperm_ext_iff]
  rintro ⟨k, a⟩ -
  rw [count_partOf, count_partOf]
  exact (parts k).count_le a

/-- **The same elements**: lists with the same parts. -/
theorem perm_of_parts {l more : List (Nat × α)} (parts : ∀ k, partOf k l = partOf k more) : l.Perm more := by
  classical
  rw [List.perm_iff_count]
  rintro ⟨k, a⟩
  rw [count_partOf, count_partOf, parts]

/-- **Owners take turns**: nobody comes back after a later one. -/
def InOwnersOrder (l : List (Nat × α)) : Prop := l.Pairwise fun x y => x.1 ≤ y.1

theorem InOwnersOrder.append_own {l : List (Nat × α)} (h : InOwnersOrder l) {k : Nat}
    (before : ∀ x ∈ l, x.1 ≤ k) (as : List α) : InOwnersOrder (l ++ as.map (k, ·)) := by
  refine List.pairwise_append.2 ⟨h, ?_, ?_⟩
  · exact List.pairwise_map.2 (List.pairwise_of_forall fun _ _ => Nat.le_refl k)
  · intro x hx y hy
    obtain ⟨a, -, rfl⟩ := List.mem_map.1 hy
    exact before x hx

/-- Where owners take turns, what belongs to the last one stands at the end. -/
theorem InOwnersOrder.split {l : List (Nat × α)} (h : InOwnersOrder l) {k : Nat} (before : ∀ x ∈ l, x.1 ≤ k) :
    l = l.filter (·.1 < k) ++ (partOf k l).map (k, ·) := by
  induction l with
  | nil => rfl
  | cons x rest ih =>
      obtain ⟨first, others⟩ := List.pairwise_cons.1 h
      obtain ⟨hx, hrest⟩ := List.forall_mem_cons.1 before
      have later := ih others hrest
      rcases Nat.lt_or_eq_of_le hx with less | own
      · have notOwn : x.1 ≠ k := Nat.ne_of_lt less
        rw [partOf, List.filter_cons_of_pos (by simpa using less),
          List.filter_cons_of_neg (by simpa using notOwn), List.cons_append, ← partOf, ← later]
      · -- Everybody behind the last owner is the last owner.
        have nobody : (x :: rest).filter (·.1 < k) = [] := by
          refine List.filter_eq_nil_iff.2 fun y hy => ?_
          rcases List.mem_cons.1 hy with rfl | hy
          · simp [own]
          · have := first y hy
            simp only [decide_eq_true_eq]
            omega
        have none : rest.filter (·.1 < k) = [] := by
          rw [List.filter_cons_of_neg (by simp [own])] at nobody
          exact nobody
        rw [none, List.nil_append] at later
        rw [nobody, List.nil_append, partOf, List.filter_cons_of_pos (by simpa using own), List.map_cons,
          List.map_cons, ← partOf, ← later, ← own]

theorem partOf_filter_lt {k j : Nat} (l : List (Nat × α)) (less : j < k) :
    partOf j (l.filter (·.1 < k)) = partOf j l := by
  rw [partOf, partOf, List.filter_filter]
  congr 1
  apply List.filter_congr
  intro x _
  by_cases own : x.1 = j
  · simp [own, less]
  · simp [own]

/-- **In order**: where owners take turns in both lists, they are compared part by part. -/
theorem sublist_of_parts {l more : List (Nat × α)} (h : InOwnersOrder l) (h' : InOwnersOrder more) {n : Nat}
    (bound : ∀ x ∈ l, x.1 < n) (bound' : ∀ x ∈ more, x.1 < n)
    (parts : ∀ k, (partOf k l).Sublist (partOf k more)) : l.Sublist more := by
  -- Induction on the number of owners; the last one is cut off both lists.
  induction n generalizing l more with
  | zero =>
      have empty : l = [] := List.eq_nil_iff_forall_not_mem.2 fun x hx => Nat.not_lt_zero _ (bound x hx)
      rw [empty]
      exact List.nil_sublist _
  | succ n ih =>
      rw [h.split fun x hx => Nat.le_of_lt_succ (bound x hx),
        h'.split fun x hx => Nat.le_of_lt_succ (bound' x hx)]
      have below (l : List (Nat × α)) : ∀ x ∈ l.filter (·.1 < n), x.1 < n :=
        fun x hx => of_decide_eq_true (List.mem_filter.1 hx).2
      refine List.Sublist.append ?_ ((parts n).map _)
      refine ih (h.filter _) (h'.filter _) (below l) (below more) fun k => ?_
      by_cases less : k < n
      · rw [partOf_filter_lt l less, partOf_filter_lt more less]
        exact parts k
      · rw [partOf_of_lt fun x hx => Nat.lt_of_lt_of_le (below l x hx) (Nat.le_of_not_lt less)]
        exact List.nil_sublist _

end Parts

/-! ## Histories -/

/-- A call of one of the writers, or another writer beside them. The writers are numbered in the order in
    which they were opened. -/
inductive LogAction where
  | call (writer : Nat) (call : LogCall)
  | reopen (settings : WriterSettings)

/-- One computation after the other succeeds if both do. -/
theorem bind_eq_ok_iff {ε α β : Type} {x : Except ε α} {f : α → Except ε β} {b : β} :
    (x >>= f) = .ok b ↔ ∃ a, x = .ok a ∧ f a = .ok b := by
  cases x with
  | error e => simp [bind, Except.bind]
  | ok a => simp [bind, Except.bind]

/-- **The entries that were stored**, each with the number of its writer. -/
def logged (offers : List (Nat × Offer)) : List (Nat × Entry) :=
  offers.flatMap fun x => if x.2.taken then x.2.entries.map (x.1, ·) else []

/-- **History**: the sessions over one disk, and what they accepted and offered in the order in which they
    did, each with the number of its session. -/
structure LogHistory where
  disk : Disk
  sessions : List LogSession
  accepted : List (Nat × Entry)
  offers : List (Nat × Offer)

namespace LogHistory

/-- The batches that the disk took, in order. -/
def stored (h : LogHistory) : List (List Entry) := taken (h.offers.map Prod.snd)

def log (h : LogHistory) : List (Nat × Entry) := logged h.offers

/-- **Another writer** over the disk. The others stay as they are. -/
def reopen (h : LogHistory) (settings : WriterSettings) : Except RecorderError LogHistory := do
  let writer ← LogWriter.new settings h.disk
  return { h with
    disk := writer.disk
    sessions := h.sessions.map (·.onDisk writer.disk) ++ [.fresh writer] }

/-- The first writer on a disk. -/
def start (settings : WriterSettings) (disk : Disk) : Except RecorderError LogHistory :=
  reopen ⟨disk, [], [], []⟩ settings

section Running

variable [Compression]

/-- **A call of one writer.** Its disk is the disk of all. -/
def ask (h : LogHistory) (k : Nat) (call : LogCall) : LogHistory :=
  match h.sessions[k]? with
  | none => h
  | some s =>
    let after := (s.act call).2
    { disk := after.disk
      sessions := (h.sessions.set k after).map (·.onDisk after.disk)
      accepted := h.accepted ++ (s.accepting call).map (k, ·)
      offers := h.offers ++ (s.offering call).map (k, ·) }

/-- **One step.** -/
def step (h : LogHistory) : LogAction → Except RecorderError LogHistory
  | .call k call => .ok (h.ask k call)
  | .reopen settings => h.reopen settings

/-- **A run** over one disk. -/
def run (settings : WriterSettings) (disk : Disk) (actions : List LogAction) :
    Except RecorderError LogHistory := do
  actions.foldlM step (← start settings disk)

end Running

/-- **What is recorded** in some actions that find so many writers. -/
def recordings : Nat → List LogAction → List (Nat × Entry)
  | _, [] => []
  | writers, .call k call :: rest =>
    (if k < writers then call.recorded?.toList.map (k, ·) else []) ++ recordings writers rest
  | writers, .reopen _ :: rest => recordings (writers + 1) rest

/-- **One writer after the other**: only the last of so many writers is called. -/
def InTurn : Nat → List LogAction → Prop
  | _, [] => True
  | writers, .call k _ :: rest => k + 1 = writers ∧ InTurn writers rest
  | writers, .reopen _ :: rest => InTurn (writers + 1) rest

/-- **The sessions took turns**: none accepted an entry, or offered a batch, after a later one had done so. -/
structure TookTurns (h : LogHistory) : Prop where
  accepted : InOwnersOrder h.accepted
  offers : InOwnersOrder h.offers

end LogHistory

/-! ### The log -/

theorem logged_cons (k : Nat) (o : Offer) (rest : List (Nat × Offer)) :
    logged ((k, o) :: rest) = (taken [o]).flatten.map (k, ·) ++ logged rest := by
  obtain ⟨entries, isTaken⟩ := o
  cases isTaken with
  | true =>
      show entries.map (k, ·) ++ logged rest = (entries ++ []).map (k, ·) ++ logged rest
      rw [List.append_nil]
  | false => rfl

theorem logged_append (offers : List (Nat × Offer)) (k : Nat) (more : List Offer) :
    logged (offers ++ more.map (k, ·)) = logged offers ++ (taken more).flatten.map (k, ·) := by
  have own : logged (more.map (k, ·)) = (taken more).flatten.map (k, ·) := by
    induction more with
    | nil => rfl
    | cons o rest ih =>
        rw [List.map_cons, logged_cons, ih, ← List.map_append, ← List.flatten_append, ← taken_append]
        rfl
  rw [← own]
  exact List.flatMap_append

/-- Without the numbers, the log is what the taken batches hold. -/
theorem map_snd_logged (offers : List (Nat × Offer)) :
    (logged offers).map Prod.snd = (taken (offers.map Prod.snd)).flatten := by
  induction offers with
  | nil => rfl
  | cons x rest ih =>
      have numbers : ((taken [x.2]).flatten.map (x.1, ·)).map Prod.snd = (taken [x.2]).flatten := by
        rw [List.map_map]
        exact List.map_id _
      rw [logged_cons, List.map_append, ih, numbers, ← List.flatten_append, ← taken_append]
      rfl

/-- The part of a session in the log. -/
theorem partOf_logged (k : Nat) (offers : List (Nat × Offer)) :
    partOf k (logged offers) = (taken (partOf k offers)).flatten := by
  induction offers with
  | nil => rfl
  | cons x rest ih =>
      obtain ⟨j, o⟩ := x
      have parts : partOf k ((j, o) :: rest) = partOf k ([o].map (j, ·)) ++ partOf k rest :=
        partOf_append k [(j, o)] rest
      rw [logged_cons, parts, partOf_append, taken_append, List.flatten_append, ih]
      by_cases own : k = j
      · rw [own, partOf_own, partOf_own]
      · rw [partOf_other own, partOf_other own]
        rfl

theorem exists_offer_of_mem_logged {offers : List (Nat × Offer)} {x : Nat × Entry} (h : x ∈ logged offers) :
    ∃ o ∈ offers, o.1 = x.1 := by
  obtain ⟨o, ho, hx⟩ := List.mem_flatMap.1 h
  refine ⟨o, ho, ?_⟩
  split at hx
  · obtain ⟨e, -, rfl⟩ := List.mem_map.1 hx
    rfl
  · exact absurd hx List.not_mem_nil

/-- Offers in turns make a log in turns. -/
theorem InOwnersOrder.logged {offers : List (Nat × Offer)} (h : InOwnersOrder offers) :
    InOwnersOrder (logged offers) := by
  induction offers with
  | nil => exact .nil
  | cons x rest ih =>
      obtain ⟨first, others⟩ := List.pairwise_cons.1 h
      rw [logged_cons]
      refine List.pairwise_append.2 ⟨?_, ih others, ?_⟩
      · exact List.pairwise_map.2 (List.pairwise_of_forall fun _ _ => Nat.le_refl x.1)
      · intro y hy z hz
        obtain ⟨e, -, rfl⟩ := List.mem_map.1 hy
        obtain ⟨o, ho, same⟩ := exists_offer_of_mem_logged hz
        rw [← same]
        exact first o ho

/-! ## Steps -/

namespace LogHistory

variable {h : LogHistory}

/-- **What a history knows** of a session. -/
structure Knows (h : LogHistory) (k : Nat) (s : LogSession) : Prop where
  disk : s.disk = h.disk
  accepted : partOf k h.accepted = s.accepted
  offers : partOf k h.offers = s.tried

section Asking

variable [Compression] {k : Nat} {s : LogSession}

theorem ask_of_found (found : h.sessions[k]? = some s) (call : LogCall) :
    h.ask k call = {
      disk := (s.act call).2.disk
      sessions := (h.sessions.set k (s.act call).2).map (·.onDisk (s.act call).2.disk)
      accepted := h.accepted ++ (s.accepting call).map (k, ·)
      offers := h.offers ++ (s.offering call).map (k, ·) } := by
  rw [ask, found]

theorem ask_of_none (none : h.sessions[k]? = none) (call : LogCall) : h.ask k call = h := by
  rw [ask, none]

/-- **The sessions after a call**: the one that was called, and the others over its disk. -/
theorem sessions_ask (found : h.sessions[k]? = some s) (call : LogCall) (j : Nat) :
    (h.ask k call).sessions[j]? =
      if j = k then some (s.act call).2 else h.sessions[j]?.map (·.onDisk (s.act call).2.disk) := by
  rw [ask_of_found found, List.getElem?_map]
  by_cases own : j = k
  · rw [if_pos own, own, List.getElem?_set_self (List.getElem?_eq_some_iff.1 found).1]
    rfl
  · rw [if_neg own, List.getElem?_set_ne (Ne.symm own)]

theorem session_of_ask (found : h.sessions[k]? = some s) (call : LogCall) {j : Nat} {t : LogSession}
    (there : (h.ask k call).sessions[j]? = some t) :
    j = k ∧ t = (s.act call).2 ∨
      j ≠ k ∧ ∃ before, h.sessions[j]? = some before ∧ t = before.onDisk (s.act call).2.disk := by
  rw [sessions_ask found] at there
  split at there
  · exact .inl ⟨‹_›, (Option.some.inj there).symm⟩
  · obtain ⟨before, earlier, same⟩ := Option.map_eq_some_iff.1 there
    exact .inr ⟨‹_›, before, earlier, same.symm⟩

theorem length_ask (k : Nat) (call : LogCall) : (h.ask k call).sessions.length = h.sessions.length := by
  rw [ask]
  split
  · rfl
  · rw [List.length_map, List.length_set]

end Asking

/-- **The sessions after another writer was opened.** -/
theorem session_of_reopen {writer : LogWriter} {j : Nat} {t : LogSession}
    (there : (h.sessions.map (·.onDisk writer.disk) ++ [LogSession.fresh writer])[j]? = some t) :
    j = h.sessions.length ∧ t = .fresh writer ∨
      ∃ before, h.sessions[j]? = some before ∧ t = before.onDisk writer.disk := by
  rcases Nat.lt_or_ge j h.sessions.length with less | more
  · rw [List.getElem?_append_left (by rwa [List.length_map]), List.getElem?_map,
      Option.map_eq_some_iff] at there
    obtain ⟨before, there, rfl⟩ := there
    exact .inr ⟨before, there, rfl⟩
  · rw [List.getElem?_append_right (by rwa [List.length_map]), List.length_map] at there
    obtain ⟨last, rfl⟩ := List.getElem?_eq_some_iff.1 there
    rw [List.length_singleton] at last
    refine .inl ⟨by omega, ?_⟩
    rw [List.getElem_singleton]

section Compressed

variable [c : Compression]

/-- **A sound history**: every session is sound, and the disk holds the batches that it took. -/
structure Sound (h : LogHistory) : Prop where
  holds : h.disk.Holds h.stored
  sessions : ∀ k s, h.sessions[k]? = some s → s.Sound ∧ h.Knows k s
  accepted : ∀ x ∈ h.accepted, x.1 < h.sessions.length
  offers : ∀ x ∈ h.offers, x.1 < h.sessions.length

/-- The disk of a session holds what the disk of all holds. -/
theorem Sound.session_holds (sound : h.Sound) {k : Nat} {s : LogSession} (found : h.sessions[k]? = some s) :
    s.disk.Holds h.stored := (sound.sessions k s found).2.disk ▸ sound.holds

/-- **Every call** keeps a history sound. -/
theorem Sound.ask (undoes : c.Undoes) (sound : h.Sound) (k : Nat) (call : LogCall) : (h.ask k call).Sound := by
  cases found : h.sessions[k]? with
  | none => rwa [ask_of_none found]
  | some s =>
    obtain ⟨good, knows⟩ := sound.sessions k s found
    obtain ⟨good', holds⟩ := good.act undoes (sound.session_holds found) call
    have inRange : k < h.sessions.length := (List.getElem?_eq_some_iff.1 found).1
    have after := ask_of_found found call
    refine ⟨?_, fun j t there => ?_, ?_, ?_⟩
    · rw [after]
      show (s.act call).2.disk.Holds (taken ((h.offers ++ (s.offering call).map (k, ·)).map Prod.snd))
      rw [List.map_append, List.map_map, taken_append]
      exact (List.map_id (s.offering call)).symm ▸ holds
    · rcases session_of_ask found call there with ⟨rfl, rfl⟩ | ⟨other, before, earlier, rfl⟩
      · refine ⟨good', by rw [after], ?_, ?_⟩
        · rw [after, partOf_append, partOf_own, knows.accepted, LogSession.act_accepted]
        · rw [after, partOf_append, partOf_own, knows.offers, LogSession.act_tried]
      · obtain ⟨goodBefore, knowsBefore⟩ := sound.sessions j before earlier
        refine ⟨goodBefore.onDisk _, by rw [after]; rfl, ?_, ?_⟩
        · rw [after, partOf_append, partOf_other other, List.append_nil]
          exact knowsBefore.accepted
        · rw [after, partOf_append, partOf_other other, List.append_nil]
          exact knowsBefore.offers
    · rw [length_ask, after]
      intro x hx
      rcases List.mem_append.1 hx with hx | hx
      · exact sound.accepted x hx
      · obtain ⟨e, -, rfl⟩ := List.mem_map.1 hx
        exact inRange
    · rw [length_ask, after]
      intro x hx
      rcases List.mem_append.1 hx with hx | hx
      · exact sound.offers x hx
      · obtain ⟨o, -, rfl⟩ := List.mem_map.1 hx
        exact inRange

/-- **Another writer** is opened, and keeps a history sound. What is queued elsewhere stays there. -/
theorem Sound.reopen (sound : h.Sound) (settings : WriterSettings) :
    ∃ h', h.reopen settings = .ok h' ∧ h'.Sound := by
  obtain ⟨opened, prepares, holds, -⟩ := sound.holds.prepare
  obtain ⟨writer, made, disk⟩ : ∃ writer, LogWriter.new settings h.disk = .ok writer ∧ writer.disk = opened := by
    rw [LogWriter.new, prepares]
    exact ⟨_, rfl, rfl⟩
  subst disk
  refine ⟨_, bind_eq_ok_iff.2 ⟨writer, made, rfl⟩, holds, fun k s there => ?_, ?_, ?_⟩
  · rcases session_of_reopen there with ⟨rfl, rfl⟩ | ⟨before, earlier, rfl⟩
    · exact ⟨LogSession.sound_fresh made, rfl, partOf_of_lt sound.accepted, partOf_of_lt sound.offers⟩
    · obtain ⟨good, knows⟩ := sound.sessions k before earlier
      exact ⟨good.onDisk _, rfl, knows.accepted, knows.offers⟩
  · intro x hx
    rw [List.length_append, List.length_map]
    exact Nat.lt_succ_of_lt (sound.accepted x hx)
  · intro x hx
    rw [List.length_append, List.length_map]
    exact Nat.lt_succ_of_lt (sound.offers x hx)

/-- **Every step** succeeds and keeps a history sound. -/
theorem Sound.step (undoes : c.Undoes) (sound : h.Sound) (action : LogAction) :
    ∃ h', h.step action = .ok h' ∧ h'.Sound := by
  cases action with
  | call k call => exact ⟨_, rfl, sound.ask undoes k call⟩
  | reopen settings => exact sound.reopen settings

theorem Sound.of_step (undoes : c.Undoes) (sound : h.Sound) {action : LogAction} {next : LogHistory}
    (stepped : h.step action = .ok next) : next.Sound := by
  obtain ⟨h', same, sound'⟩ := sound.step undoes action
  exact Except.ok.inj (same.symm.trans stepped) ▸ sound'

/-- A worker at work with a single entry offers it, whatever the size of its batches. -/
theorem Sound.ask_of_single (undoes : c.Undoes) (sound : h.Sound) {k : Nat} {s : LogSession}
    (found : h.sessions[k]? = some s) (call : LogCall) (drains : s.offering call = s.pending)
    (running : s.writer.phase = .running) {e : Entry} (queue : s.queue.entries = [e])
    (free : h.disk.batchFaults = []) {offers : List (Nat × Offer)} (before : h.offers = offers) :
    (h.ask k call).offers = offers ++ [(k, ⟨[e], true⟩)] ∧ (h.ask k call).disk.batchFaults = [] := by
  obtain ⟨good, knows⟩ := sound.sessions k s found
  have noFaults : s.disk.batchFaults = [] := (congrArg Disk.batchFaults knows.disk).trans free
  have meetsNone : s.writer.disk.batchFaults.head?.join = none := by
    rw [show s.writer.disk.batchFaults = [] from noFaults]
    rfl
  have short : s.queue.entries.length ≤ s.writer.pipeline.batchSize := by
    rw [queue]
    exact good.ready.size
  have pending := good.pending_of_short running (by simp [queue]) short meetsNone
  rw [ask_of_found found]
  refine ⟨?_, ?_⟩
  · show h.offers ++ (s.offering call).map (k, ·) = _
    rw [before, drains, pending, queue]
    rfl
  · show (s.act call).2.disk.batchFaults = []
    rw [(good.act undoes (sound.session_holds found) call).faults, noFaults, List.drop_nil]

/-! ## Runs -/

/-- **Every run** succeeds and is sound. -/
theorem Sound.foldlM (undoes : c.Undoes) (sound : h.Sound) (actions : List LogAction) :
    ∃ h', actions.foldlM LogHistory.step h = .ok h' ∧ h'.Sound := by
  induction actions generalizing h with
  | nil => exact ⟨h, rfl, sound⟩
  | cons action rest ih =>
      obtain ⟨next, stepped, sound'⟩ := sound.step undoes action
      obtain ⟨last, ran, sound''⟩ := ih sound'
      exact ⟨last, bind_eq_ok_iff.2 ⟨next, stepped, ran⟩, sound''⟩

/-- The first writer begins a sound history. -/
theorem exists_start_sound (settings : WriterSettings) (disk : Disk) (folder : disk.folder = .missing)
    (database : disk.database = .missing) :
    ∃ h, start settings disk = .ok h ∧ h.Sound ∧ h.sessions.length = 1 ∧ h.accepted = [] ∧ h.offers = [] := by
  obtain ⟨opened, prepares, holds, -⟩ := Disk.prepare_of_missing folder database
  obtain ⟨writer, made, rfl⟩ : ∃ writer, LogWriter.new settings disk = .ok writer ∧ writer.disk = opened := by
    rw [LogWriter.new, prepares]
    exact ⟨_, rfl, rfl⟩
  refine ⟨_, bind_eq_ok_iff.2 ⟨writer, made, rfl⟩, ⟨holds, fun k s there => ?_, ?_, ?_⟩, rfl, rfl, rfl⟩
  · rcases session_of_reopen there with ⟨rfl, rfl⟩ | ⟨before, earlier, -⟩
    · exact ⟨LogSession.sound_fresh made, rfl, rfl, rfl⟩
    · cases earlier
  · exact fun x hx => absurd hx List.not_mem_nil
  · exact fun x hx => absurd hx List.not_mem_nil

/-! ### Turns -/

/-- A call of the last writer is in turn. -/
theorem Sound.tookTurns_ask (sound : h.Sound) (turns : h.TookTurns) {k : Nat}
    (last : k + 1 = h.sessions.length) (call : LogCall) : (h.ask k call).TookTurns := by
  cases found : h.sessions[k]? with
  | none => rwa [ask_of_none found]
  | some s =>
    rw [ask_of_found found]
    constructor
    · refine turns.accepted.append_own (fun x hx => ?_) _
      have := sound.accepted x hx
      omega
    · refine turns.offers.append_own (fun x hx => ?_) _
      have := sound.offers x hx
      omega

/-- **Calls in turn** make sessions that took turns. -/
theorem Sound.tookTurns_of_foldlM (undoes : c.Undoes) (sound : h.Sound) (turns : h.TookTurns)
    {actions : List LogAction} (inTurn : InTurn h.sessions.length actions) {last : LogHistory}
    (ran : actions.foldlM LogHistory.step h = .ok last) : last.TookTurns := by
  induction actions generalizing h with
  | nil =>
      cases ran
      exact turns
  | cons action rest ih =>
      obtain ⟨next, stepped, ran⟩ := bind_eq_ok_iff.1 ran
      cases action with
      | call k call =>
          cases stepped
          refine ih (sound.ask undoes k call) (sound.tookTurns_ask turns inTurn.1 call) ?_ ran
          rw [length_ask]
          exact inTurn.2
      | reopen settings =>
          have sound' := sound.of_step undoes stepped
          obtain ⟨writer, made, ended⟩ := bind_eq_ok_iff.1 stepped
          cases ended
          refine ih sound' ⟨turns.accepted, turns.offers⟩ ?_ ran
          rw [List.length_append, List.length_map]
          exact inTurn

/-! ### Recordings -/

/-- **Nothing was dropped** because a queue was full. -/
def KeptAll (h : LogHistory) : Prop := ∀ s ∈ h.sessions, s.writer.stats.dropped = 0

/-- Counters never go down: if nothing is dropped after a call, nothing was before, and what was recorded is
    accepted. -/
theorem Sound.keptAll_of_ask (undoes : c.Undoes) (sound : h.Sound) {k : Nat} {call : LogCall}
    (kept : (h.ask k call).KeptAll) :
    h.KeptAll ∧ (h.ask k call).accepted =
      h.accepted ++ if k < h.sessions.length then call.recorded?.toList.map (k, ·) else [] := by
  cases found : h.sessions[k]? with
  | none =>
    have behind : ¬ k < h.sessions.length := Nat.not_lt.2 (List.getElem?_eq_none_iff.1 found)
    rw [ask_of_none found] at kept ⊢
    exact ⟨kept, by rw [if_neg behind, List.append_nil]⟩
  | some s =>
    have there := sessions_ask found call
    have own : (s.act call).2.writer.stats.dropped = 0 := by
      refine kept _ (List.mem_of_getElem? ((there k).trans ?_))
      rw [if_pos rfl]
    obtain ⟨before, accepts⟩ := (sound.sessions k s found).1.accepting_of_act undoes
      (sound.session_holds found) call own
    constructor
    · intro t ht
      obtain ⟨j, at_⟩ := List.mem_iff_getElem?.1 ht
      by_cases same : j = k
      · rw [same, found] at at_
        exact Option.some.inj at_ ▸ before
      · refine kept (t.onDisk (s.act call).2.disk) (List.mem_of_getElem? ((there j).trans ?_))
        rw [if_neg same, at_]
        rfl
    · rw [if_pos (List.getElem?_eq_some_iff.1 found).1, ask_of_found found, accepts]

/-- **Where nothing is dropped**, what was recorded is accepted. -/
theorem Sound.accepted_of_foldlM (undoes : c.Undoes) (sound : h.Sound) {actions : List LogAction}
    {last : LogHistory} (ran : actions.foldlM LogHistory.step h = .ok last) (kept : last.KeptAll) :
    h.KeptAll ∧ last.accepted = h.accepted ++ recordings h.sessions.length actions := by
  induction actions generalizing h with
  | nil =>
      cases ran
      exact ⟨kept, (List.append_nil _).symm⟩
  | cons action rest ih =>
      obtain ⟨next, stepped, ran⟩ := bind_eq_ok_iff.1 ran
      cases action with
      | call k call =>
          cases stepped
          obtain ⟨keptNext, rests⟩ := ih (sound.ask undoes k call) ran
          obtain ⟨keptFirst, first⟩ := sound.keptAll_of_ask undoes keptNext
          refine ⟨keptFirst, ?_⟩
          rw [rests, first, length_ask, List.append_assoc]
          rfl
      | reopen settings =>
          have sound' := sound.of_step undoes stepped
          obtain ⟨writer, made, ended⟩ := bind_eq_ok_iff.1 stepped
          cases ended
          obtain ⟨keptNext, rests⟩ := ih sound' ran
          refine ⟨fun s hs => keptNext (s.onDisk writer.disk) ?_, ?_⟩
          · exact List.mem_append_left _ (List.mem_map_of_mem hs)
          · rw [rests, List.length_append, List.length_map]
            rfl

/-! ## Durability -/

/-- No batch failed, and nothing is queued. -/
def Settled (h : LogHistory) : Prop :=
  ∀ s ∈ h.sessions, s.writer.stats.flushFailures = 0 ∧ s.queue.entries = []

/-- **A durable log** after some actions. What is read back is what the disk took, batch after batch; it has
    every entry that is accepted, and nothing else, at most once. In each session the accepted entries are those
    offered, in the order of acceptance, followed by those still in the queue, and an offer is taken or is
    one of the failures that are counted. -/
structure Durable (h : LogHistory) (actions : List LogAction) : Prop where
  readBack : h.disk.readEntries = .ok (h.log.map Prod.snd)
  once : h.log.Subperm h.accepted
  sessions : ∀ k s, h.sessions[k]? = some s →
    partOf k h.accepted = s.accepted ∧ partOf k h.log = (taken s.tried).flatten
  inOrder : ∀ k, (partOf k h.log).Sublist (partOf k h.accepted)
  accounts : ∀ s ∈ h.sessions, s.Accounts
  balance : ∀ s ∈ h.sessions, s.writer.stats.queued =
    s.writer.stats.flushed + (lost s.tried).flatten.length + s.queue.size
  flushed : ∀ s ∈ h.sessions, s.writer.flush.1 = .ok () → s.writer.flush.2.pipeline.queue.entries = []
  /-- If the sessions took turns, the log is in the order of acceptance across all of them. -/
  inOrderAcross : h.TookTurns → h.log.Sublist h.accepted
  /-- Without a failure, and once the queues are empty, the log is all that was accepted. -/
  complete : h.Settled → h.log.Perm h.accepted
  completeInOrder : h.Settled → h.TookTurns → h.log = h.accepted
  /-- If nothing was dropped either, all that was recorded was accepted: neither the settings of the writers
      nor the drains between the entries have any part in it. -/
  lossless : h.KeptAll → h.accepted = recordings 1 actions
  /-- Sessions take turns where each writer is called before the next one is opened. -/
  turns : InTurn 1 actions → h.TookTurns

/-- What a session has in the log. -/
theorem Sound.partOf_log (sound : h.Sound) {k : Nat} {s : LogSession} (found : h.sessions[k]? = some s) :
    partOf k h.log = (taken s.tried).flatten := by
  rw [log, partOf_logged, (sound.sessions k s found).2.offers]

/-- Nothing belongs to a session that is not there. -/
theorem Sound.partOf_none (sound : h.Sound) {k : Nat} (none : h.sessions[k]? = none) :
    partOf k h.log = [] ∧ partOf k h.accepted = [] := by
  have behind := List.getElem?_eq_none_iff.1 none
  constructor
  · rw [log, partOf_logged, partOf_of_lt fun x hx => Nat.lt_of_lt_of_le (sound.offers x hx) behind]
    rfl
  · exact partOf_of_lt fun x hx => Nat.lt_of_lt_of_le (sound.accepted x hx) behind

/-- **Each session** has its entries in the log in the order of acceptance. -/
theorem Sound.inOrder (sound : h.Sound) (k : Nat) : (partOf k h.log).Sublist (partOf k h.accepted) := by
  cases found : h.sessions[k]? with
  | none =>
      rw [(sound.partOf_none found).1]
      exact List.nil_sublist _
  | some s =>
      obtain ⟨good, knows⟩ := sound.sessions k s found
      rw [sound.partOf_log found, knows.accepted]
      exact good.accounts.taken_sublist

/-- Settled sessions have all their entries in the log. -/
theorem Sound.parts_of_settled (sound : h.Sound) (settled : h.Settled) (k : Nat) :
    partOf k h.log = partOf k h.accepted := by
  cases found : h.sessions[k]? with
  | none => rw [(sound.partOf_none found).1, (sound.partOf_none found).2]
  | some s =>
      obtain ⟨good, knows⟩ := sound.sessions k s found
      obtain ⟨failures, empty⟩ := settled s (List.mem_of_getElem? found)
      rw [sound.partOf_log found, knows.accepted, good.accounts.accepted_eq failures empty]

/-- Sessions that offered all they accepted, and lost nothing of it, are settled. -/
theorem Sound.settled_of_parts (sound : h.Sound)
    (parts : ∀ k < h.sessions.length, lost (partOf k h.offers) = [] ∧
      partOf k h.accepted = offered (partOf k h.offers)) : h.Settled := by
  intro s hs
  obtain ⟨k, found⟩ := List.mem_iff_getElem?.1 hs
  obtain ⟨⟨books, -⟩, knows⟩ := sound.sessions k s found
  obtain ⟨none, all⟩ := parts k (List.getElem?_eq_some_iff.1 found).1
  rw [knows.offers] at none all
  rw [knows.accepted] at all
  exact ⟨books.failures.trans (congrArg List.length none),
    List.append_right_eq_self.1 (books.kept.symm.trans all)⟩

/-- **Across the sessions**, if they took turns. -/
theorem Sound.inOrderAcross (sound : h.Sound) (turns : h.TookTurns) : h.log.Sublist h.accepted := by
  refine sublist_of_parts turns.offers.logged turns.accepted (fun x hx => ?_) sound.accepted sound.inOrder
  obtain ⟨o, ho, same⟩ := exists_offer_of_mem_logged hx
  exact same ▸ sound.offers o ho

theorem Sound.readEntries (sound : h.Sound) : h.disk.readEntries = .ok (h.log.map Prod.snd) := by
  rw [log, map_snd_logged]
  exact sound.holds.readEntries

/-- Every session is one of the numbered ones. -/
theorem Sound.session_sound (sound : h.Sound) {s : LogSession} (hs : s ∈ h.sessions) :
    s.Sound ∧ s.disk.Holds h.stored := by
  obtain ⟨k, found⟩ := List.mem_iff_getElem?.1 hs
  exact ⟨(sound.sessions k s found).1, sound.session_holds found⟩

/-- **Durability.** Whatever is asked of the writers over one folder, with whatever settings, and
    whichever batches and rows the disk refuses, the log keeps what it was given. -/
theorem run_durable (undoes : c.Undoes) (settings : WriterSettings) (faults : List (Option BatchFault))
    (refusals : List Bool) (actions : List LogAction) :
    ∃ h, run settings { Disk.blank with batchFaults := faults, rowRefusals := refusals } actions =
      .ok h ∧ h.Durable actions := by
  obtain ⟨first, started, sound, one, noneAccepted, noneOffered⟩ := exists_start_sound settings
    { Disk.blank with batchFaults := faults, rowRefusals := refusals } rfl rfl
  obtain ⟨last, ran, sound'⟩ := sound.foldlM undoes actions
  have turns : first.TookTurns := ⟨noneAccepted ▸ .nil, noneOffered ▸ .nil⟩
  refine ⟨last, bind_eq_ok_iff.2 ⟨first, started, ran⟩, ?_⟩
  constructor
  · exact sound'.readEntries
  · exact subperm_of_parts sound'.inOrder
  · exact fun k s found => ⟨(sound'.sessions k s found).2.accepted, sound'.partOf_log found⟩
  · exact sound'.inOrder
  · exact fun s hs => (sound'.session_sound hs).1.accounts
  · exact fun s hs => (sound'.session_sound hs).1.accounts.balance
  · exact fun s hs => (sound'.session_sound hs).1.queue_of_flush undoes (sound'.session_sound hs).2
  · exact sound'.inOrderAcross
  · exact fun settled => perm_of_parts (sound'.parts_of_settled settled)
  · intro settled tookTurns
    refine (sound'.inOrderAcross tookTurns).eq_of_length ?_
    exact (perm_of_parts (sound'.parts_of_settled settled)).length_eq
  · intro kept
    rw [(sound.accepted_of_foldlM undoes ran kept).2, noneAccepted, one, List.nil_append]
  · exact fun inTurn => sound.tookTurns_of_foldlM undoes turns (one ▸ inTurn) ran

end Compressed

/-- In batches of one, the second of which the disk refuses, and with another writer after the shutdown of the
    first one. -/
theorem run_durable_reopened :
    Compression.frames.Undoes ∧
      ∃ h, run ⟨1, 8, .fast⟩ { Disk.blank with batchFaults := [none, some .row], rowRefusals := [true] }
          [.call 0 .start, .call 0 (.record (.weave 1 [10])), .call 0 (.record (.weave 2 [])), .call 0 .shutdown,
            .reopen ⟨4, 2, .best⟩, .call 1 .start, .call 1 (.record (.weave 3 [30])), .call 1 .flush] = .ok h ∧
        h.log.Sublist h.accepted := by
  obtain ⟨h, ran, durable⟩ := run_durable Compression.frames_undoes ⟨1, 8, .fast⟩ [none, some .row] [true]
    [.call 0 .start, .call 0 (.record (.weave 1 [10])), .call 0 (.record (.weave 2 [])), .call 0 .shutdown,
      .reopen ⟨4, 2, .best⟩, .call 1 .start, .call 1 (.record (.weave 3 [30])), .call 1 .flush]
  refine ⟨Compression.frames_undoes, h, ran, durable.inOrderAcross (durable.turns ?_)⟩
  simp [InTurn]

/-- **A worker that is given up comes late.** The first writer is replaced while an entry is in its queue; its
    worker drains after the second one has stored the next entry. Nothing failed and nothing is queued, and the
    log is not in the order of acceptance. -/
theorem run_outOfTurn :
    ∃ h, run ⟨1, 8, .fast⟩ Disk.blank
        [.call 0 .start, .call 0 (.record (.weave 1 [10])), .reopen ⟨1, 8, .fast⟩,
          .call 1 .start, .call 1 (.record (.weave 2 [20])), .call 1 .flush, .call 0 .wake] = .ok h ∧
      h.accepted = [(0, .weave 1 [10]), (1, .weave 2 [20])] ∧ h.Settled ∧
      h.disk.readEntries = .ok [.weave 2 [20], .weave 1 [10]] := by
  have undoes := Compression.frames_undoes
  obtain ⟨first, started, sound, -⟩ := exists_start_sound ⟨1, 8, .fast⟩ Disk.blank rfl rfl
  obtain ⟨both, ran, sound⟩ := sound.foldlM undoes [.call 0 .start, .call 0 (.record (.weave 1 [10])),
    .reopen ⟨1, 8, .fast⟩, .call 1 .start, .call 1 (.record (.weave 2 [20]))]
  -- Both workers have an entry, and the disk refuses nothing.
  obtain ⟨s, t, sessions, running, running', queue, queue', accepted, offers, free⟩ :
      ∃ s t, both.sessions = [s, t] ∧ s.writer.phase = .running ∧ t.writer.phase = .running ∧
        s.queue.entries = [.weave 1 [10]] ∧ t.queue.entries = [.weave 2 [20]] ∧
        both.accepted = [(0, .weave 1 [10]), (1, .weave 2 [20])] ∧ both.offers = [] ∧
        both.disk.batchFaults = [] := by
    cases started
    cases ran
    exact ⟨_, _, rfl, rfl, rfl, rfl, rfl, rfl, rfl, rfl⟩
  have found : both.sessions[1]? = some t := by rw [sessions]; rfl
  obtain ⟨offers, free⟩ := sound.ask_of_single undoes found .flush rfl running' queue' free offers
  have sound := sound.ask undoes 1 .flush
  have found' : (both.ask 1 .flush).sessions[0]? = some (s.onDisk (t.act .flush).2.disk) := by
    rw [sessions_ask found, sessions]
    rfl
  obtain ⟨offers, -⟩ := sound.ask_of_single undoes found' .wake rfl running queue free offers
  have sound := sound.ask undoes 0 .wake
  have accepted : ((both.ask 1 .flush).ask 0 .wake).accepted = [(0, .weave 1 [10]), (1, .weave 2 [20])] := by
    rw [ask_of_found found', ask_of_found found, accepted]
    rfl
  refine ⟨(both.ask 1 .flush).ask 0 .wake, ?_, accepted, sound.settled_of_parts fun k inRange => ?_, ?_⟩
  · cases started
    cases ran
    rfl
  · rw [length_ask, length_ask, sessions] at inRange
    rw [accepted, offers]
    match k, inRange with
    | 0, _ => exact ⟨rfl, rfl⟩
    | 1, _ => exact ⟨rfl, rfl⟩
  · rw [sound.readEntries, log, offers]
    rfl

end LogHistory
end ProbeRecorder
