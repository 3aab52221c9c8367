import Mathlib.Data.List.Dedup
import Mathlib.Data.List.Perm.Subperm
import ProbeRecorder.Proofs.Identity.Runs

/-!
# `ProbeRecorder.Proofs.Identity.Purging` — how large an identity map gets

A map makes a slot for each value that it observes, and it does not hear of it when a value dies. It looks for
dead values when it has more slots than its threshold, which is then set to twice the slots that are left. So the
number of slots stays below twice the largest number of observed values that lived at the same time, and a table
of living values is not looked through again before it has doubled.

## Contents
- **Peaks.** `observedIn`, `Heap.living` and `peak`.
- **Purging once.** `IdentityMap.Swept`, and how many slots are left (`size_purge_le`).
- **Calls.** A call as entering and purging (`entered`, `sweeps`, `serve_table`); what is left (`slotsLeft`).
- **Proportion.** `IdentityMap.Proportioned`, kept by one call (`Proportioned.serve`).
- **Runs.** `IdentityMap.run_bounded`.
-/

namespace ProbeRecorder

/-! ## Peaks -/

/-- **The values that a run observes**, in order and with repetitions. -/
def observedIn (steps : List IdentityStep) : List Allocation := steps.filterMap fun step => step.call.value?

/-- How many of some values live. -/
def Heap.living (heap : Heap) (seen : List Allocation) : Nat := (seen.dedup.filter heap.isLive).length

/-- The peak of a run that comes after some values were observed. -/
def peakAfter (seen : List Allocation) : List IdentityStep → Nat
  | [] => 0
  | step :: rest => max (step.heap.living (seen ++ step.call.value?.toList))
      (peakAfter (seen ++ step.call.value?.toList) rest)

/-- **The peak of a run**: the largest number of observed values that live at the same time. Between two calls
    nothing is observed and living values only die, so the calls are all there is to look at. -/
def peak (steps : List IdentityStep) : Nat := peakAfter [] steps

theorem observedIn_concat (past : List IdentityStep) (step : IdentityStep) :
    observedIn (past ++ [step]) = observedIn past ++ step.call.value?.toList := by
  unfold observedIn
  rw [List.filterMap_append]
  cases h : step.call.value? <;> simp [h]

theorem observedIn_cons (step : IdentityStep) (rest : List IdentityStep) :
    observedIn (step :: rest) = step.call.value?.toList ++ observedIn rest := by
  unfold observedIn
  rw [List.filterMap_cons]
  cases step.call.value? <;> rfl

theorem peakAfter_concat (seen : List Allocation) (past : List IdentityStep) (step : IdentityStep) :
    peakAfter seen (past ++ [step]) =
      max (peakAfter seen past) (step.heap.living (seen ++ observedIn (past ++ [step]))) := by
  induction past generalizing seen with
  | nil =>
      rw [List.nil_append, observedIn_cons]
      simp [peakAfter, observedIn]
  | cons first rest ih =>
      show max _ (peakAfter (seen ++ first.call.value?.toList) (rest ++ [step])) = _
      rw [ih, List.cons_append, observedIn_cons, List.append_assoc, ← Nat.max_assoc]
      rfl

theorem peak_concat (past : List IdentityStep) (step : IdentityStep) :
    peak (past ++ [step]) = max (peak past) (step.heap.living (observedIn (past ++ [step]))) :=
  peakAfter_concat [] past step

namespace IdentityMap

variable {m m' : IdentityMap} {heap : Heap} {call : IdentityCall} {seen : List Allocation} {n left most : Nat}

/-! ## Purging once -/

/-- The slots of dead values. -/
def deadSlots (m : IdentityMap) (heap : Heap) : List (Nat × IdentitySlot) :=
  m.slots.bindings.filter fun b => !heap.isLive b.2.value

/-- **A map is swept**: the slots of dead values are removed and no others, and their number is known. -/
structure Swept (m : IdentityMap) (heap : Heap) (m' : IdentityMap) : Prop where
  slots : ∀ address slot, m'.slots.get? address = some slot ↔
    m.slots.get? address = some slot ∧ heap.isLive slot.value = true
  purged : m.purged heap = (m.deadSlots heap).length
  size : m'.size + m.purged heap = m.size

theorem size_purge (m : IdentityMap) (heap : Heap) :
    (m.purge heap).size + (m.deadSlots heap).length = m.size := by
  have split := List.length_eq_length_filter_add (l := m.slots.bindings) fun b => heap.isLive b.2.value
  exact split.symm

/-- **Purging** sweeps. -/
theorem purge_swept (m : IdentityMap) (heap : Heap) : m.Swept heap (m.purge heap) where
  slots := by
    intro address slot
    show (m.slots.retain _).get? address = some slot ↔ _
    rw [FiniteMap.get?_retain, Option.filter_eq_some_iff]
  purged := by
    have split := size_purge m heap
    unfold IdentityMap.purged
    omega
  size := by
    have split := size_purge m heap
    unfold IdentityMap.purged
    omega

/-- The slots are those of values that were observed. -/
def OwnedBy (m : IdentityMap) (seen : List Allocation) : Prop :=
  ∀ address slot, m.slots.get? address = some slot → slot.value.address = address ∧ slot.value ∈ seen

/-- **Slots that are left** belong to different observed values that live. -/
theorem size_purge_le (owned : m.OwnedBy seen) (heap : Heap) : (m.purge heap).size ≤ heap.living seen := by
  let slots := (m.purge heap).slots
  have binding : ∀ b ∈ slots.bindings, b.2.value.address = b.1 ∧ b.2.value ∈ seen ∧
      heap.isLive b.2.value = true := by
    intro b hb
    have there := (slots.mem_bindings_iff b.1 b.2).mp hb
    obtain ⟨before, live⟩ := ((purge_swept m heap).slots b.1 b.2).mp there
    exact ⟨(owned b.1 b.2 before).1, (owned b.1 b.2 before).2, live⟩
  have addresses : (slots.bindings.map fun b => b.2.value).map Allocation.address =
      slots.bindings.map Prod.fst := by
    rw [List.map_map]
    exact List.map_congr_left fun b hb => (binding b hb).1
  -- Different slots have different addresses, so their values differ.
  have apart : (slots.bindings.map fun b => b.2.value).Nodup :=
    List.Nodup.of_map Allocation.address (addresses ▸ slots.nodup)
  have among : (slots.bindings.map fun b => b.2.value) ⊆ seen.dedup.filter heap.isLive := by
    intro a ha
    obtain ⟨b, hb, rfl⟩ := List.mem_map.mp ha
    obtain ⟨_, observed, live⟩ := binding b hb
    exact List.mem_filter.mpr ⟨List.mem_dedup.mpr observed, live⟩
  have count := (List.subperm_of_subset apart among).length_le
  rw [List.length_map] at count
  exact count

/-! ## Calls -/

/-- **The map with the slot that a call makes**, before anything is purged. -/
def entered (m : IdentityMap) (heap : Heap) : IdentityCall → IdentityMap
  | .identify a _ => (m.enter heap a).2
  | .issue => m
  | .purge => m
  | .latest _ => m

/-- **A call purges** the map if it is told to, or if it observes a value and there are more slots than
    allowed. -/
def sweeps (m : IdentityMap) (heap : Heap) : IdentityCall → Bool
  | .identify a _ => decide ((m.enter heap a).2.threshold < (m.enter heap a).2.size)
  | .issue => false
  | .purge => true
  | .latest _ => false

/-- The slots that the last purge of a run left, or what an earlier one left. -/
def leftAfter (m : IdentityMap) (earlier : Nat) : List IdentityStep → Nat
  | [] => earlier
  | step :: rest => (m.serve step.heap step.call).2.leftAfter
      (if m.sweeps step.heap step.call then ((m.entered step.heap step.call).purge step.heap).size else earlier)
      rest

/-- **The slots that the last purge of a run left**; none if nothing was purged. -/
def slotsLeft (m : IdentityMap) (steps : List IdentityStep) : Nat := m.leftAfter 0 steps

theorem leftAfter_concat (m : IdentityMap) (earlier : Nat) (past : List IdentityStep) (step : IdentityStep) :
    m.leftAfter earlier (past ++ [step]) =
      if (m.after past).sweeps step.heap step.call then
        (((m.after past).entered step.heap step.call).purge step.heap).size
      else m.leftAfter earlier past := by
  induction past generalizing m earlier with
  | nil => rfl
  | cons first rest ih => exact ih _ _

/-- Nothing changed in the table of slots. -/
structure SameTable (m m' : IdentityMap) : Prop where
  slots : m'.slots = m.slots
  threshold : m'.threshold = m.threshold
  capacity : m'.capacity = m.capacity

theorem SameTable.refl (m : IdentityMap) : m.SameTable m := ⟨rfl, rfl, rfl⟩

theorem SameTable.size (same : m.SameTable m') : m'.size = m.size :=
  congrArg FiniteMap.size same.slots

theorem SameTable.swept {before : IdentityMap} (same : m.SameTable m') (swept : before.Swept heap m) :
    before.Swept heap m' where
  slots := by
    rw [same.slots]
    exact swept.slots
  purged := swept.purged
  size := by
    rw [same.size]
    exact swept.size

/-- **A call enters its value, and then it purges or it does not.** -/
theorem serve_table (m : IdentityMap) (heap : Heap) (call : IdentityCall) :
    SameTable (if m.sweeps heap call then (m.entered heap call).purge heap else m.entered heap call)
      (m.serve heap call).2 := by
  cases call with
  | identify a typeName =>
      have remembered : ((m.enter heap a).2.purgeIfDue heap).SameTable (m.identify heap a typeName).2 := by
        show SameTable _ (((m.enter heap a).2.purgeIfDue heap).remember a typeName)
        unfold remember
        split <;> exact ⟨rfl, rfl, rfl⟩
      unfold purgeIfDue at remembered
      show SameTable (if decide ((m.enter heap a).2.threshold < (m.enter heap a).2.size) = true then _ else _) _
      simp only [decide_eq_true_eq]
      exact remembered
  | issue => exact ⟨rfl, rfl, rfl⟩
  | purge => exact SameTable.refl _
  | latest typeName =>
      show SameTable m (m.latestInstance heap typeName).2
      unfold latestInstance
      split
      · exact SameTable.refl m
      · split
        · exact SameTable.refl m
        · split <;> exact ⟨rfl, rfl, rfl⟩

theorem entered_threshold (m : IdentityMap) (heap : Heap) (call : IdentityCall) :
    (m.entered heap call).threshold = m.threshold := by
  cases call with
  | identify a _ =>
      show (m.enter heap a).2.threshold = _
      unfold enter
      split <;> rfl
  | _ => rfl

theorem entered_capacity (m : IdentityMap) (heap : Heap) (call : IdentityCall) :
    (m.entered heap call).capacity = m.capacity := by
  cases call with
  | identify a _ =>
      show (m.enter heap a).2.capacity = _
      unfold enter
      split <;> rfl
  | _ => rfl

/-- The slot that a call makes is that of the value it observes. -/
theorem OwnedBy.entered (owned : m.OwnedBy seen) (heap : Heap) (call : IdentityCall) :
    (m.entered heap call).OwnedBy (seen ++ call.value?.toList) := by
  have still : m.OwnedBy (seen ++ call.value?.toList) := by
    intro address slot h
    exact ⟨(owned address slot h).1, List.mem_append_left _ (owned address slot h).2⟩
  cases call with
  | identify a _ =>
      show (m.enter heap a).2.OwnedBy _
      unfold enter
      split
      · exact still
      · intro address slot h
        rw [FiniteMap.get?_put] at h
        split at h
        · rename_i same
          rw [← Option.some.inj h, same]
          exact ⟨rfl, List.mem_append_right _ (by simp [IdentityCall.value?])⟩
        · exact still address slot h
  | _ => exact still

/-- **A call spares the living**: it takes no living value's slot from it. -/
theorem serve_spares (m : IdentityMap) (heap : Heap) (call : IdentityCall) {address : Nat} {slot : IdentitySlot}
    (there : m.slots.get? address = some slot) (live : heap.isLive slot.value = true) :
    (m.serve heap call).2.slots.get? address = some slot := by
  have stays : (m.entered heap call).slots.get? address = some slot := by
    cases call with
    | identify a _ =>
        show (m.enter heap a).2.slots.get? address = some slot
        unfold enter
        split
        · exact there
        · rename_i unknown
          rw [FiniteMap.get?_put, if_neg]
          · exact there
          · -- A living value at the address would be known.
            rintro rfl
            simp [known?, there, live] at unknown
    | _ => exact there
  rw [(serve_table m heap call).slots]
  split
  · exact ((purge_swept _ heap).slots address slot).mpr ⟨stays, live⟩
  · exact stays

/-! ## Proportion -/

/-- **A map in proportion**: the threshold is the capacity or twice the slots that the last purge left, and there
    are not more slots than that. -/
structure Proportioned (m : IdentityMap) (n left most : Nat) (seen : List Allocation) : Prop where
  capacity : m.capacity = max n 1
  threshold : m.threshold = max (max n 1) (2 * left)
  size_le : m.size ≤ m.threshold
  left_le : left ≤ most
  owned : m.OwnedBy seen

theorem new_proportioned (n typeCapacity : Nat) : (new n typeCapacity).Proportioned n 0 0 [] where
  capacity := rfl
  threshold := (Nat.max_zero _).symm
  size_le := Nat.zero_le _
  left_le := Nat.le_refl 0
  owned := fun _ _ h => nomatch h

theorem Proportioned.of_same (proportioned : m.Proportioned n left most seen) (same : m.SameTable m') :
    m'.Proportioned n left most seen where
  capacity := same.capacity.trans proportioned.capacity
  threshold := same.threshold.trans proportioned.threshold
  size_le := by
    rw [same.size, same.threshold]
    exact proportioned.size_le
  left_le := proportioned.left_le
  owned := by
    unfold OwnedBy
    rw [same.slots]
    exact proportioned.owned

/-- **A purge restores the proportion.** -/
theorem purge_proportioned (capacity : m.capacity = max n 1) (owned : m.OwnedBy seen) (heap : Heap) :
    (m.purge heap).Proportioned n (m.purge heap).size (heap.living seen) seen := by
  have threshold : (m.purge heap).threshold = max (max n 1) (2 * (m.purge heap).size) := by
    rw [← capacity]
    rfl
  exact {
    capacity := capacity
    threshold := threshold
    size_le := by
      rw [threshold]
      omega
    left_le := size_purge_le owned heap
    owned := fun address slot h => owned address slot (((purge_swept m heap).slots address slot).mp h).1 }

/-- A call that does not purge leaves the slots within the threshold. -/
theorem Proportioned.entered_size_le (proportioned : m.Proportioned n left most seen)
    (unswept : m.sweeps heap call = false) :
    (m.entered heap call).size ≤ (m.entered heap call).threshold := by
  cases call with
  | identify a _ => exact Nat.le_of_not_lt (of_decide_eq_false unswept)
  | purge => cases unswept
  | issue => exact proportioned.size_le
  | latest _ => exact proportioned.size_le

/-- More living values are no harm. -/
theorem Proportioned.mono (proportioned : m.Proportioned n left most seen) {most' : Nat} (h : most ≤ most') :
    m.Proportioned n left most' seen :=
  { proportioned with left_le := Nat.le_trans proportioned.left_le h }

/-- **One call** keeps the proportion. -/
theorem Proportioned.serve (proportioned : m.Proportioned n left most seen) (heap : Heap)
    (call : IdentityCall) :
    (m.serve heap call).2.Proportioned n
      (if m.sweeps heap call then ((m.entered heap call).purge heap).size else left)
      (max most (heap.living (seen ++ call.value?.toList))) (seen ++ call.value?.toList) := by
  have owned := proportioned.owned.entered heap call
  have capacity := (entered_capacity m heap call).trans proportioned.capacity
  refine Proportioned.of_same ?_ (serve_table m heap call)
  cases sweeps : m.sweeps heap call with
  | true =>
      rw [if_pos rfl, if_pos rfl]
      exact (purge_proportioned capacity owned heap).mono (Nat.le_max_right _ _)
  | false =>
      rw [if_neg (by decide), if_neg (by decide)]
      exact {
        capacity := capacity
        threshold := (entered_threshold m heap call).trans proportioned.threshold
        size_le := proportioned.entered_size_le sweeps
        left_le := Nat.le_trans proportioned.left_le (Nat.le_max_left _ _)
        owned := owned }

/-- **Runs** keep the proportion. -/
theorem proportioned_after (n typeCapacity : Nat) (steps : List IdentityStep) :
    ((new n typeCapacity).after steps).Proportioned n ((new n typeCapacity).slotsLeft steps) (peak steps)
      (observedIn steps) := by
  induction steps using List.reverseRecOn with
  | nil => exact new_proportioned n typeCapacity
  | append_singleton past step ih =>
      have next := ih.serve step.heap step.call
      rw [← observedIn_concat, ← peak_concat] at next
      rw [after_concat, slotsLeft, leftAfter_concat]
      exact next

/-! ## Runs -/

/-- **A bounded table**: the slots stay within the threshold, and the threshold within the capacity and twice the
    living values. -/
structure Bounded (m : IdentityMap) (n most : Nat) : Prop where
  size_le : m.size ≤ m.threshold
  threshold_ge : max n 1 ≤ m.threshold
  threshold_le : m.threshold ≤ max (max n 1) (2 * most)

/-- **What a call does to the table**, after a purge that left some slots: if it purges, it removes the slots of
    dead values and counts them, and otherwise it removes nothing; it purges of its own accord only a table that
    has grown over its capacity and has more than doubled since; and in any case it spares the living. -/
structure Tidies (m : IdentityMap) (n left : Nat) (step : IdentityStep) : Prop where
  swept : m.sweeps step.heap step.call = true →
    (m.entered step.heap step.call).Swept step.heap (m.serve step.heap step.call).2
  unswept : m.sweeps step.heap step.call = false →
    (m.serve step.heap step.call).2.slots = (m.entered step.heap step.call).slots
  due : ∀ a typeName, step.call = .identify a typeName → m.sweeps step.heap step.call = true →
    max n 1 < (m.entered step.heap step.call).size ∧ 2 * left < (m.entered step.heap step.call).size
  spared : ∀ address slot, m.slots.get? address = some slot → step.heap.isLive slot.value = true →
    (m.serve step.heap step.call).2.slots.get? address = some slot

theorem Proportioned.bounded (proportioned : m.Proportioned n left most seen) : m.Bounded n most where
  size_le := proportioned.size_le
  threshold_ge := by
    rw [proportioned.threshold]
    exact Nat.le_max_left _ _
  threshold_le := by
    have := proportioned.left_le
    rw [proportioned.threshold]
    omega

theorem Proportioned.tidies (proportioned : m.Proportioned n left most seen) (step : IdentityStep) :
    m.Tidies n left step where
  swept := by
    intro sweeps
    have same := serve_table m step.heap step.call
    rw [if_pos sweeps] at same
    exact same.swept (purge_swept _ step.heap)
  unswept := by
    intro unswept
    have same := serve_table m step.heap step.call
    rw [unswept, if_neg (by decide)] at same
    exact same.slots
  due := by
    intro a typeName h sweeps
    have threshold := (entered_threshold m step.heap step.call).trans proportioned.threshold
    rw [h] at sweeps threshold ⊢
    have grown : (m.enter step.heap a).2.threshold < (m.enter step.heap a).2.size := of_decide_eq_true sweeps
    have exceeds : max (max n 1) (2 * left) < (m.enter step.heap a).2.size := threshold ▸ grown
    exact Nat.max_lt.mp exceeds
  spared := fun _ _ there live => serve_spares m step.heap step.call there live

/-- **The size of an identity map**: after every run the slots are at most the threshold, which is at most the
    capacity or twice the largest number of observed values that lived at the same time; and whatever call comes
    next tidies the table. -/
theorem run_bounded (n typeCapacity : Nat) (steps : List IdentityStep) :
    ((new n typeCapacity).after steps).Bounded n (peak steps) ∧
      ∀ step, ((new n typeCapacity).after steps).Tidies n ((new n typeCapacity).slotsLeft steps) step := by
  have proportioned := proportioned_after n typeCapacity steps
  exact ⟨proportioned.bounded, proportioned.tidies⟩

end IdentityMap
end ProbeRecorder
