import ProbeRecorder.Identity.Map
import ProbeRecorder.Proofs.Identity.Heap

/-!
# `ProbeRecorder.Proofs.Identity.Map` — whose an identity is

A living value keeps its slot, whatever is purged around it, and so its identity. An identity belongs to one
value for ever: after the value died its address may belong to another one, and its identity does not.

## Contents
- **Numbers.** Identities as numbers (`ofNat_inj`).
- **Slots.** `IdentityMap.Holds`; what purging leaves (`holds_purge`, `get?_of_purge`).
- **Ledgers.** `IdentityMap.Ledger`, who was given which identity.
- **Operations.** What they do to a ledger (`Ledger.evolve`, `Ledger.identify`, `Ledger.issue`).
- **Owners.** `Ledger.identify_eq` and `Ledger.owner_eq`: a value is identified as what it was given, and
  nobody else is.
-/

namespace ProbeRecorder

/-! ## Numbers -/

theorem toNat_toUInt64_ofNat {n : Nat} (h : n < UInt64.size) : (Int64.ofNat n).toUInt64.toNat = n :=
  UInt64.toNat_ofNat_of_lt' h

/-- Numbers of identities that were counted without running over. -/
theorem ofNat_inj {i j : Nat} (hi : i < UInt64.size) (hj : j < UInt64.size)
    (h : Int64.ofNat i = Int64.ofNat j) : i = j := by
  rw [← toNat_toUInt64_ofNat hi, h, toNat_toUInt64_ofNat hj]

theorem succ_ofNat {id : Int64} {n : Nat} (h : id = Int64.ofNat n) : id + 1 = Int64.ofNat (n + 1) := by
  rw [h, Int64.ofNat_add n 1]
  rfl

namespace IdentityMap

variable {m m' : IdentityMap} {heap heap' : Heap} {a b : Allocation} {id : ObjectId} {n : Nat}
  {given : List (ObjectId × Allocation)} {typeName : String}

/-! ## Slots -/

/-- The slot at the address of a value holds that value. -/
def Holds (m : IdentityMap) (id : ObjectId) (a : Allocation) : Prop :=
  m.slots.get? a.address = some ⟨id, a⟩

/-- Purging removes slots and changes none. -/
theorem get?_of_purge {address : Nat} {slot : IdentitySlot}
    (h : (m.purge heap).slots.get? address = some slot) : m.slots.get? address = some slot := by
  unfold purge at h
  rw [FiniteMap.get?_retain] at h
  exact (Option.filter_eq_some_iff.mp h).1

/-- Purging spares the living. -/
theorem holds_purge (holds : m.Holds id a) (live : heap.isLive a = true) : (m.purge heap).Holds id a := by
  show (m.slots.retain _).get? a.address = _
  rw [FiniteMap.get?_retain]
  exact Option.filter_eq_some_iff.mpr ⟨holds, live⟩

theorem nextId_purgeIfDue (m : IdentityMap) (heap : Heap) : (m.purgeIfDue heap).nextId = m.nextId := by
  unfold purgeIfDue
  split <;> rfl

/-- Nothing changed that identities are taken from. -/
structure SameIds (m m' : IdentityMap) : Prop where
  slots : m'.slots = m.slots
  nextId : m'.nextId = m.nextId

theorem remember_same (m : IdentityMap) (a : Allocation) (typeName : String) :
    m.SameIds (m.remember a typeName) := by
  unfold remember
  split <;> exact ⟨rfl, rfl⟩

theorem latestInstance_same (m : IdentityMap) (heap : Heap) (typeName : String) :
    m.SameIds (m.latestInstance heap typeName).2 := by
  unfold latestInstance
  split
  · exact ⟨rfl, rfl⟩
  · split
    · exact ⟨rfl, rfl⟩
    · split <;> exact ⟨rfl, rfl⟩

/-! ## Ledgers -/

/-- **A ledger** of the identities that values were given, among at most `n` that were taken. A heap says who
    of them still lives. -/
structure Ledger (m : IdentityMap) (heap : Heap) (n : Nat) (given : List (ObjectId × Allocation)) :
    Prop where
  taken : ∃ k, k ≤ n ∧ m.nextId = Int64.ofNat (k + 1) ∧
    ∀ x ∈ given, ∃ j, 0 < j ∧ j ≤ k ∧ x.1 = Int64.ofNat j
  /-- As long as the numbers do not run over. -/
  unique : n < UInt64.size → ∀ x ∈ given, ∀ y ∈ given, x.1 = y.1 → x = y
  slots : ∀ address slot, m.slots.get? address = some slot →
    (slot.id, slot.value) ∈ given ∧ slot.value.address = address
  older : ∀ x ∈ given, x.2.serial < heap.nextSerial
  kept : ∀ x ∈ given, heap.isLive x.2 = true → m.Holds x.1 x.2

/-- An identity that is taken next was given to nobody. -/
theorem Ledger.fst_ne_nextId (ledger : m.Ledger heap n given) (room : n + 1 < UInt64.size)
    {x : ObjectId × Allocation} (hx : x ∈ given) : x.1 ≠ m.nextId := by
  obtain ⟨k, hk, hnext, hgiven⟩ := ledger.taken
  obtain ⟨j, _, hj, hid⟩ := hgiven x hx
  intro h
  rw [hid, hnext] at h
  have := ofNat_inj (by omega) (by omega) h
  omega

/-- The identity of the absent value was given to nobody. -/
theorem Ledger.fst_ne_null (ledger : m.Ledger heap n given) (room : n < UInt64.size)
    {x : ObjectId × Allocation} (hx : x ∈ given) : x.1 ≠ nullObject := by
  obtain ⟨k, hk, _, hgiven⟩ := ledger.taken
  obtain ⟨j, hpos, hj, hid⟩ := hgiven x hx
  intro h
  rw [hid] at h
  have hzero : j = 0 := ofNat_inj (by omega) (by decide) h
  omega

/-! ## Operations -/

/-- Nobody was given anything by a new map. -/
theorem new_ledger (capacity typeCapacity : Nat) : (new capacity typeCapacity).Ledger .empty 0 [] :=
  { taken := ⟨0, Nat.le_refl _, rfl, fun _ h => (nomatch h)⟩
    unique := fun _ _ h => (nomatch h)
    slots := fun _ _ h => (nomatch h)
    older := fun _ h => (nomatch h)
    kept := fun _ h => (nomatch h) }

theorem Ledger.of_same (ledger : m.Ledger heap n given) (same : m.SameIds m') :
    m'.Ledger heap n given where
  taken := by
    rw [same.nextId]
    exact ledger.taken
  unique := ledger.unique
  slots := by
    rw [same.slots]
    exact ledger.slots
  older := ledger.older
  kept := by
    unfold Holds
    rw [same.slots]
    exact ledger.kept

theorem Ledger.mono (ledger : m.Ledger heap n given) {n' : Nat} (h : n ≤ n') :
    m.Ledger heap n' given := by
  obtain ⟨k, hk, taken⟩ := ledger.taken
  exact { ledger with
    taken := ⟨k, Nat.le_trans hk h, taken⟩
    unique := fun room => ledger.unique (Nat.lt_of_le_of_lt h room) }

/-- **Memory goes on**: who lives later has kept the slot. -/
theorem Ledger.evolve (ledger : m.Ledger heap n given) (evolves : heap.Evolves heap') :
    m.Ledger heap' n given :=
  { ledger with
    older := fun x hx => Nat.lt_of_lt_of_le (ledger.older x hx) evolves.nextSerial_le
    kept := fun x hx live => ledger.kept x hx (evolves.isLive (ledger.older x hx) live) }

/-- **An identity without a value.** -/
theorem Ledger.issue (ledger : m.Ledger heap n given) : m.issue.2.Ledger heap (n + 1) given := by
  obtain ⟨k, hk, hnext, hgiven⟩ := ledger.taken
  refine { ledger with
    taken := ⟨k + 1, by omega, succ_ofNat hnext, fun x hx => ?_⟩
    unique := fun room => ledger.unique (Nat.lt_of_succ_lt room) }
  obtain ⟨j, hpos, hj, hid⟩ := hgiven x hx
  exact ⟨j, hpos, by omega, hid⟩

/-- A living value is known exactly if its slot holds it. -/
theorem Ledger.known?_eq_some_iff (ledger : m.Ledger heap n given) (sound : heap.Sound)
    (live : heap.isLive a = true) : m.known? heap a = some id ↔ m.Holds id a := by
  unfold known? Holds
  constructor
  · intro h
    split at h
    · rename_i slot hslot
      split at h
      · rename_i hlive
        -- Two living values at one address are one value.
        have heq := sound.apart slot.value a hlive live (ledger.slots _ _ hslot).2
        rw [hslot, ← Option.some.inj h, ← heq]
      · cases h
    · cases h
  · intro h
    rw [h]
    simp [live]

/-- **The identity of a living value**: the one it was given, or the next one. -/
theorem Ledger.enter_cases (ledger : m.Ledger heap n given) (sound : heap.Sound)
    (live : heap.isLive a = true) :
    (∃ id, m.Holds id a ∧ m.enter heap a = (id, m)) ∨
      ((∀ id, ¬ m.Holds id a) ∧ m.enter heap a = (m.nextId,
        { m with slots := m.slots.put a.address ⟨m.nextId, a⟩, nextId := m.nextId + 1 })) := by
  unfold enter
  cases h : m.known? heap a with
  | some id => exact .inl ⟨id, (ledger.known?_eq_some_iff sound live).mp h, rfl⟩
  | none =>
      refine .inr ⟨fun id holds => ?_, rfl⟩
      rw [(ledger.known?_eq_some_iff sound live).mpr holds] at h
      cases h

/-- The order of the lines does not matter, nor how often one is there. -/
theorem Ledger.congr (ledger : m.Ledger heap n given) {given' : List (ObjectId × Allocation)}
    (same : ∀ x, x ∈ given' ↔ x ∈ given) : m.Ledger heap n given' := by
  obtain ⟨k, hk, hnext, hgiven⟩ := ledger.taken
  exact {
    taken := ⟨k, hk, hnext, fun x hx => hgiven x ((same x).mp hx)⟩
    unique := fun room x hx y hy => ledger.unique room x ((same x).mp hx) y ((same y).mp hy)
    slots := fun address slot h =>
      ⟨(same _).mpr (ledger.slots address slot h).1, (ledger.slots address slot h).2⟩
    older := fun x hx => ledger.older x ((same x).mp hx)
    kept := fun x hx => ledger.kept x ((same x).mp hx) }

/-- A ledger may have a line twice. -/
theorem Ledger.repeat (ledger : m.Ledger heap n given) {x : ObjectId × Allocation} (hx : x ∈ given) :
    m.Ledger heap n (x :: given) := by
  refine ledger.congr fun y => ?_
  rw [List.mem_cons]
  constructor
  · rintro (rfl | hy)
    · exact hx
    · exact hy
  · exact .inr

/-- A new line: a living value without a slot is given the next identity. -/
theorem Ledger.put (ledger : m.Ledger heap n given) (sound : heap.Sound)
    (live : heap.isLive a = true) (unknown : ∀ id, ¬ m.Holds id a) :
    ({ m with slots := m.slots.put a.address ⟨m.nextId, a⟩, nextId := m.nextId + 1 } : IdentityMap).Ledger
      heap (n + 1) ((m.nextId, a) :: given) := by
  constructor
  · obtain ⟨k, hk, hnext, hgiven⟩ := ledger.taken
    refine ⟨k + 1, by omega, succ_ofNat hnext, fun x hx => ?_⟩
    rcases List.mem_cons.mp hx with rfl | hx
    · exact ⟨k + 1, by omega, Nat.le_refl _, hnext⟩
    · obtain ⟨j, hpos, hj, hid⟩ := hgiven x hx
      exact ⟨j, hpos, by omega, hid⟩
  · intro room x hx y hy same
    rcases List.mem_cons.mp hx with rfl | hx <;> rcases List.mem_cons.mp hy with rfl | hy
    · rfl
    · exact absurd same.symm (ledger.fst_ne_nextId room hy)
    · exact absurd same (ledger.fst_ne_nextId room hx)
    · exact ledger.unique (Nat.lt_of_succ_lt room) x hx y hy same
  · intro address slot h
    rw [FiniteMap.get?_put] at h
    split at h
    · rename_i heq
      rw [← Option.some.inj h, heq]
      exact ⟨List.mem_cons_self, rfl⟩
    · have old := ledger.slots address slot h
      exact ⟨List.mem_cons_of_mem _ old.1, old.2⟩
  · intro x hx
    rcases List.mem_cons.mp hx with rfl | hx
    · exact sound.older a live
    · exact ledger.older x hx
  · intro x hx hlive
    unfold Holds
    rw [FiniteMap.get?_put]
    rcases List.mem_cons.mp hx with rfl | hx
    · exact if_pos rfl
    · have holds := ledger.kept x hx hlive
      rw [if_neg]
      · exact holds
      · -- Who lives at this address has no slot yet.
        intro same
        rw [sound.apart x.2 a hlive live same] at holds
        exact unknown _ holds

/-- Entering a value, as a line of the ledger. -/
theorem Ledger.enter (ledger : m.Ledger heap n given) (sound : heap.Sound)
    (live : heap.isLive a = true) :
    (m.enter heap a).2.Ledger heap (n + 1) (((m.enter heap a).1, a) :: given) := by
  rcases ledger.enter_cases sound live with ⟨id, holds, hent⟩ | ⟨unknown, hent⟩
  · rw [hent]
    exact (ledger.repeat (ledger.slots _ _ holds).1).mono (Nat.le_succ n)
  · rw [hent]
    exact ledger.put sound live unknown

/-- **Purging** concerns nobody in the ledger who lives. -/
theorem Ledger.purge (ledger : m.Ledger heap n given) : (m.purge heap).Ledger heap n given where
  taken := ledger.taken
  unique := ledger.unique
  slots := fun address slot h => ledger.slots address slot (get?_of_purge h)
  older := ledger.older
  kept := fun x hx live => holds_purge (ledger.kept x hx live) live

theorem Ledger.purgeIfDue (ledger : m.Ledger heap n given) : (m.purgeIfDue heap).Ledger heap n given := by
  unfold IdentityMap.purgeIfDue
  split
  · exact ledger.purge
  · exact ledger

/-- **Identifying a living value** is a line of the ledger. -/
theorem Ledger.identify (ledger : m.Ledger heap n given) (sound : heap.Sound)
    (live : heap.isLive a = true) (typeName : String) :
    (m.identify heap a typeName).2.Ledger heap (n + 1) (((m.identify heap a typeName).1, a) :: given) :=
  (ledger.enter sound live).purgeIfDue.of_same (remember_same _ a typeName)

/-! ## Owners -/

/-- **A living value keeps its identity.** -/
theorem Ledger.identify_eq (ledger : m.Ledger heap n given) (hx : (id, a) ∈ given)
    (live : heap.isLive a = true) (typeName : String) : (m.identify heap a typeName).1 = id := by
  have holds : m.slots.get? a.address = some ⟨id, a⟩ := ledger.kept _ hx live
  show (m.enter heap a).1 = id
  simp [IdentityMap.enter, known?, holds, live]

/-- **An identity belongs to one value for ever.** -/
theorem Ledger.owner_eq (ledger : m.Ledger heap n given) (sound : heap.Sound)
    (live : heap.isLive a = true) (room : n + 1 < UInt64.size) (typeName : String)
    {x : ObjectId × Allocation} (hx : x ∈ given) (same : (m.identify heap a typeName).1 = x.1) :
    x.2 = a := by
  have line := ledger.identify sound live typeName
  have heq := line.unique room _ List.mem_cons_self x (List.mem_cons_of_mem _ hx) same
  rw [← heq]

end IdentityMap
end ProbeRecorder
