import Mathlib.Data.List.Induction
import Mathlib.Data.List.Pairwise
import ProbeRecorder.Proofs.Identity.Map

/-!
# `ProbeRecorder.Proofs.Identity.Runs` — who is given which identity in a run

A program calls an identity map, and between the calls it allocates values, holds them and lets them go. A value
is given one identity for its whole life. No identity is given twice otherwise: neither to two values, also if
they live at one address after each other, nor to a value and to nobody.

## Contents
- **Calls.** `IdentityCall`, `Grant`, and one call (`IdentityMap.serve`).
- **Runs.** `IdentityStep`, `IdentityMap.grants` and `IdentityMap.takenIn`; `Lived`, runs in a memory.
- **Maps after runs.** `IdentityMap.after`, and what every step keeps holds after a run (`after_invariant`).
- **Grants.** `Grant.Same`, and the `Register` of all grants so far.
- **One call.** What it does to a register (`Register.serve`).
- **Whole runs.** `Register.run` and `run_grants`.
-/

namespace ProbeRecorder

/-! ## Calls -/

/-- **A call** of an identity map. -/
inductive IdentityCall where
  | identify (a : Allocation) (typeName : String)
  | issue
  | purge
  | latest (typeName : String)

/-- The value that a call is about. -/
def IdentityCall.value? : IdentityCall → Option Allocation
  | identify a _ => some a
  | _ => none

/-- **An identity that was given**, to a value or to nobody. -/
structure Grant where
  owner : Option Allocation
  id : ObjectId
  deriving DecidableEq, Repr

/-- Two grants to the same value. -/
def Grant.Same (g h : Grant) : Prop := g.owner.isSome = true ∧ g.owner = h.owner

namespace IdentityMap

/-- **One call**: the identity that it gives, and the map after it. -/
def serve (m : IdentityMap) (heap : Heap) : IdentityCall → Option Grant × IdentityMap
  | .identify a typeName => (some ⟨some a, (m.identify heap a typeName).1⟩, (m.identify heap a typeName).2)
  | .issue => (some ⟨none, m.issue.1⟩, m.issue.2)
  | .purge => (none, m.purge heap)
  | .latest typeName => (none, (m.latestInstance heap typeName).2)

/-- How many identities a call takes; a value that is known takes none. -/
def taken (m : IdentityMap) (heap : Heap) : IdentityCall → Nat
  | .identify a _ => if (m.known? heap a).isSome then 0 else 1
  | .issue => 1
  | _ => 0

end IdentityMap

/-! ## Runs -/

/-- **One step**: a call, and what lives in memory meanwhile. -/
structure IdentityStep where
  heap : Heap
  call : IdentityCall

/-- **A run in a memory** that evolves from call to call; a value that is identified lives. -/
def Lived (heap : Heap) : List IdentityStep → Prop
  | [] => True
  | step :: rest => heap.Evolves step.heap ∧
      (∀ a, step.call.value? = some a → step.heap.isLive a = true) ∧ Lived step.heap rest

namespace IdentityMap

/-- **The identities that a run gives**, in order. -/
def grants (m : IdentityMap) : List IdentityStep → List Grant
  | [] => []
  | step :: rest => (m.serve step.heap step.call).1.toList ++ (m.serve step.heap step.call).2.grants rest

/-- How many identities a run takes. -/
def takenIn (m : IdentityMap) : List IdentityStep → Nat
  | [] => 0
  | step :: rest => m.taken step.heap step.call + (m.serve step.heap step.call).2.takenIn rest

/-! ## Maps after runs -/

/-- **The map after a run.** -/
def after (m : IdentityMap) (steps : List IdentityStep) : IdentityMap :=
  steps.foldl (fun m step => (m.serve step.heap step.call).2) m

theorem after_concat (m : IdentityMap) (steps : List IdentityStep) (step : IdentityStep) :
    m.after (steps ++ [step]) = ((m.after steps).serve step.heap step.call).2 := by
  simp [after]

/-- **Invariants of runs**: what holds at the start, and is kept by every step in a memory that goes on, holds
    after the first part of a run; the rest goes on from there. -/
theorem after_invariant {motive : List IdentityStep → Heap → Prop} (initial : motive [] .empty)
    (next : ∀ past heap step, motive past heap → heap.Sound → heap.Evolves step.heap →
      (∀ a, step.call.value? = some a → step.heap.isLive a = true) → motive (past ++ [step]) step.heap)
    {steps rest : List IdentityStep} (lived : Lived .empty (steps ++ rest)) :
    ∃ heap, motive steps heap ∧ heap.Sound ∧ Lived heap rest := by
  induction steps using List.reverseRecOn generalizing rest with
  | nil => exact ⟨.empty, initial, Heap.empty_sound, lived⟩
  | append_singleton past step ih =>
      rw [List.append_assoc] at lived
      obtain ⟨heap, held, sound, evolves, lives, later⟩ := ih lived
      exact ⟨step.heap, next past heap step held sound evolves lives, evolves.sound sound, later⟩

/-! ## Grants -/

/-- The lines that grants to values are in a ledger. -/
def linesOf (gs : List Grant) : List (ObjectId × Allocation) :=
  gs.filterMap fun g => g.owner.map fun a => (g.id, a)

theorem mem_linesOf {gs : List Grant} {id : ObjectId} {a : Allocation} :
    (id, a) ∈ linesOf gs ↔ ⟨some a, id⟩ ∈ gs := by
  unfold linesOf
  rw [List.mem_filterMap]
  constructor
  · rintro ⟨⟨owner, id'⟩, hg, h⟩
    obtain ⟨b, rfl, hline⟩ := Option.map_eq_some_iff.mp h
    obtain ⟨rfl, rfl⟩ := Prod.mk.inj hline
    exact hg
  · intro hg
    exact ⟨_, hg, rfl⟩

/-- **The register** of all grants so far, while exactly `n` identities were taken. -/
structure Register (m : IdentityMap) (heap : Heap) (n : Nat) (gs : List Grant) : Prop where
  ledger : m.Ledger heap n (linesOf gs)
  next : m.nextId = Int64.ofNat (n + 1)
  numbered : ∀ g ∈ gs, ∃ j, 0 < j ∧ j ≤ n ∧ g.id = Int64.ofNat j
  /-- A value has one identity. -/
  stable : gs.Pairwise fun g h => g.Same h → g.id = h.id
  /-- As long as the numbers do not run over. -/
  apart : n < UInt64.size → gs.Pairwise fun g h => g.id = h.id → g.Same h

variable {m m' : IdentityMap} {heap heap' : Heap} {n : Nat} {gs : List Grant} {a : Allocation}

theorem new_register (capacity typeCapacity : Nat) : (new capacity typeCapacity).Register .empty 0 [] where
  ledger := new_ledger capacity typeCapacity
  next := rfl
  numbered := fun _ h => nomatch h
  stable := List.Pairwise.nil
  apart := fun _ => List.Pairwise.nil

/-- Grants with one identity have one owner. -/
theorem Register.owner_eq (register : m.Register heap n gs) (room : n < UInt64.size) {g h : Grant}
    (hg : g ∈ gs) (hh : h ∈ gs) (same : g.id = h.id) : g.owner = h.owner := by
  have symm : Std.Symm fun g h : Grant => g.id = h.id → g.owner = h.owner :=
    ⟨fun _ _ rel heq => (rel heq.symm).symm⟩
  have pairs : gs.Pairwise fun g h => g.id = h.id → g.owner = h.owner :=
    (register.apart room).imp fun rel heq => (rel heq).2
  exact pairs.forall_of_forall (fun _ _ _ => rfl) hg hh same

theorem Register.of_same (register : m.Register heap n gs) (same : m.SameIds m') :
    m'.Register heap n gs :=
  { register with
    ledger := register.ledger.of_same same
    next := same.nextId.trans register.next }

/-- **Memory goes on.** -/
theorem Register.evolve (register : m.Register heap n gs) (evolves : heap.Evolves heap') :
    m.Register heap' n gs :=
  { register with ledger := register.ledger.evolve evolves }

theorem Register.purge (register : m.Register heap n gs) : (m.purge heap).Register heap n gs :=
  { register with ledger := register.ledger.purge }

theorem Register.purgeIfDue (register : m.Register heap n gs) : (m.purgeIfDue heap).Register heap n gs :=
  { register with
    ledger := register.ledger.purgeIfDue
    next := (nextId_purgeIfDue m heap).trans register.next }

/-- **An identity that was not taken yet** is in no grant. -/
theorem Register.id_ne_nextId (register : m.Register heap n gs) (room : n + 1 < UInt64.size) {g : Grant}
    (hg : g ∈ gs) : g.id ≠ m.nextId := by
  obtain ⟨j, _, hj, hid⟩ := register.numbered g hg
  intro h
  rw [hid, register.next] at h
  have := ofNat_inj (by omega) (by omega) h
  omega

/-! ## One call -/

theorem linesOf_concat_some (gs : List Grant) (id : ObjectId) (a : Allocation) :
    linesOf (gs ++ [⟨some a, id⟩]) = linesOf gs ++ [(id, a)] := by
  simp [linesOf]

theorem linesOf_concat_none (gs : List Grant) (id : ObjectId) :
    linesOf (gs ++ [⟨none, id⟩]) = linesOf gs := by
  simp [linesOf]

/-- **One grant more**, with a number up to `n'` and a ledger that has its line. It is compared with every
    earlier one. -/
theorem Register.concat (register : m.Register heap n gs) {n' : Nat} {g : Grant} (more : n ≤ n')
    (ledger : m'.Ledger heap n' (linesOf (gs ++ [g]))) (next : m'.nextId = Int64.ofNat (n' + 1))
    (number : ∃ j, 0 < j ∧ j ≤ n' ∧ g.id = Int64.ofNat j)
    (stable : ∀ x ∈ gs, x.Same g → x.id = g.id)
    (apart : n' < UInt64.size → ∀ x ∈ gs, x.id = g.id → x.Same g) : m'.Register heap n' (gs ++ [g]) where
  ledger := ledger
  next := next
  numbered := by
    intro x hx
    rcases List.mem_append.mp hx with hx | hx
    · obtain ⟨j, hpos, hj, hid⟩ := register.numbered x hx
      exact ⟨j, hpos, Nat.le_trans hj more, hid⟩
    · rw [List.mem_singleton.mp hx]
      exact number
  stable := by
    refine List.pairwise_append.mpr ⟨register.stable, List.pairwise_singleton _ _, fun x hx y hy => ?_⟩
    rw [List.mem_singleton.mp hy]
    exact stable x hx
  apart := by
    intro room
    refine List.pairwise_append.mpr
      ⟨register.apart (Nat.lt_of_le_of_lt more room), List.pairwise_singleton _ _, fun x hx y hy => ?_⟩
    rw [List.mem_singleton.mp hy]
    exact apart room x hx

/-- **A value that is known** is given its identity again. -/
theorem Register.again (register : m.Register heap n gs) {id : ObjectId} (holds : m.Holds id a)
    (live : heap.isLive a = true) : m.Register heap n (gs ++ [⟨some a, id⟩]) := by
  have line : (id, a) ∈ linesOf gs := (register.ledger.slots _ _ holds).1
  have granted : ⟨some a, id⟩ ∈ gs := mem_linesOf.mp line
  refine register.concat (Nat.le_refl n) ?_ register.next (register.numbered _ granted) ?_ ?_
  · rw [linesOf_concat_some]
    refine register.ledger.congr fun x => ?_
    rw [List.mem_append, List.mem_singleton]
    constructor
    · rintro (hx | rfl)
      · exact hx
      · exact line
    · exact .inl
  · rintro ⟨owner, id'⟩ hx ⟨_, howner⟩
    -- Its earlier grants are lines of a living value, and the slot has one identity.
    obtain rfl : owner = some a := howner
    have kept : m.Holds id' a := register.ledger.kept _ (mem_linesOf.mpr hx) live
    have slot := kept.symm.trans holds
    exact congrArg IdentitySlot.id (Option.some.inj slot)
  · intro room x hx same
    have owner : x.owner = some a := register.owner_eq room hx granted same
    exact ⟨by rw [owner]; rfl, owner⟩

/-- **An identity that is taken** is given to a value without one, or to nobody. -/
theorem Register.fresh (register : m.Register heap n gs) {owner : Option Allocation}
    (ledger : m'.Ledger heap (n + 1) (linesOf (gs ++ [⟨owner, m.nextId⟩])))
    (next : m'.nextId = m.nextId + 1) (unknown : ∀ a, owner = some a → ∀ id, ⟨some a, id⟩ ∉ gs) :
    m'.Register heap (n + 1) (gs ++ [⟨owner, m.nextId⟩]) := by
  refine register.concat (Nat.le_succ n) ledger ?_ ⟨n + 1, Nat.succ_pos n, Nat.le_refl _, register.next⟩ ?_ ?_
  · rw [next]
    exact succ_ofNat register.next
  · rintro ⟨owner', id⟩ hx ⟨isSome, howner⟩
    obtain ⟨a, rfl⟩ := Option.isSome_iff_exists.mp isSome
    exact absurd hx (unknown a howner.symm id)
  · intro room x hx same
    exact absurd same (register.id_ne_nextId room hx)

/-- Entering a value. -/
theorem Register.enter (register : m.Register heap n gs) (sound : heap.Sound) (live : heap.isLive a = true)
    (typeName : String) :
    (m.enter heap a).2.Register heap (n + m.taken heap (.identify a typeName))
      (gs ++ [⟨some a, (m.enter heap a).1⟩]) := by
  rcases register.ledger.enter_cases sound live with ⟨id, holds, hent⟩ | ⟨unknown, hent⟩
  · have known := (register.ledger.known?_eq_some_iff sound live).mpr holds
    have none_taken : m.taken heap (.identify a typeName) = 0 := by simp [taken, known]
    rw [hent, none_taken]
    exact register.again holds live
  · have stranger : m.known? heap a = none := by
      rw [Option.eq_none_iff_forall_ne_some]
      intro id known
      exact unknown id ((register.ledger.known?_eq_some_iff sound live).mp known)
    have one_taken : m.taken heap (.identify a typeName) = 1 := by simp [taken, stranger]
    rw [hent, one_taken]
    refine register.fresh ?_ rfl ?_
    · rw [linesOf_concat_some]
      refine (register.ledger.put sound live unknown).congr fun x => ?_
      rw [List.mem_append, List.mem_singleton, List.mem_cons, or_comm]
    · rintro b hb id granted
      obtain rfl : a = b := Option.some.inj hb
      exact unknown id (register.ledger.kept _ (mem_linesOf.mpr granted) live)

/-- **One call** adds what it gives to the register. -/
theorem Register.serve (register : m.Register heap n gs) (sound : heap.Sound) {call : IdentityCall}
    (lives : ∀ a, call.value? = some a → heap.isLive a = true) :
    (m.serve heap call).2.Register heap (n + m.taken heap call) (gs ++ (m.serve heap call).1.toList) := by
  cases call with
  | identify a typeName =>
      have entered := register.enter sound (lives a rfl) typeName
      exact entered.purgeIfDue.of_same (remember_same _ a typeName)
  | issue =>
      refine register.fresh ?_ rfl fun a h => nomatch h
      rw [linesOf_concat_none]
      exact register.ledger.issue
  | purge =>
      rw [IdentityMap.serve, Option.toList_none, List.append_nil]
      exact register.purge
  | latest typeName =>
      rw [IdentityMap.serve, Option.toList_none, List.append_nil]
      exact register.of_same (m.latestInstance_same heap typeName)

/-! ## Whole runs -/

/-- **Runs** keep the register. -/
theorem Register.run : ∀ {steps : List IdentityStep} {m : IdentityMap} {heap : Heap} {n : Nat}
    {gs : List Grant}, m.Register heap n gs → heap.Sound → Lived heap steps →
    ∃ last heap', IdentityMap.Register last heap' (n + m.takenIn steps) (gs ++ m.grants steps) := by
  intro steps
  induction steps with
  | nil =>
      intro m heap n gs register _ _
      refine ⟨m, heap, ?_⟩
      rw [grants, List.append_nil]
      exact register
  | cons step rest ih =>
      intro m heap n gs register sound lived
      obtain ⟨evolves, lives, later⟩ := lived
      have sound' := evolves.sound sound
      have served := (register.evolve evolves).serve sound' lives
      obtain ⟨last, heap', final⟩ := ih served sound' later
      refine ⟨last, heap', ?_⟩
      rw [takenIn, grants, ← Nat.add_assoc, ← List.append_assoc]
      exact final

/-- An identity with a small number is greater than that of the absent value. -/
theorem null_lt_ofNat {j : Nat} (pos : 0 < j) (room : j < Nat.pow 2 63) : nullObject < Int64.ofNat j := by
  rw [Int64.lt_iff_toInt_lt, Int64.toInt_ofNat_of_lt room]
  exact Int.natCast_pos.mpr pos

/-- **Identities**: in every run of a new map, two identities that were given are equal exactly if they were
    given to the same value, and none is that of the absent value or below it. The numbers of identities must
    not run over, except for a value to keep its own. -/
theorem run_grants (capacity typeCapacity : Nat) {steps : List IdentityStep} (lived : Lived .empty steps) :
    ((new capacity typeCapacity).grants steps).Pairwise (fun g h => g.Same h → g.id = h.id) ∧
      ((new capacity typeCapacity).takenIn steps < UInt64.size →
        ((new capacity typeCapacity).grants steps).Pairwise fun g h => g.id = h.id → g.Same h) ∧
      ((new capacity typeCapacity).takenIn steps < Nat.pow 2 63 →
        ∀ g ∈ (new capacity typeCapacity).grants steps, nullObject < g.id) := by
  obtain ⟨last, heap, register⟩ := (new_register capacity typeCapacity).run Heap.empty_sound lived
  rw [Nat.zero_add, List.nil_append] at register
  refine ⟨register.stable, register.apart, fun room g hg => ?_⟩
  obtain ⟨j, pos, hj, hid⟩ := register.numbered g hg
  rw [hid]
  exact null_lt_ofNat pos (Nat.lt_of_le_of_lt hj room)

/-- Where a value lives at address 7. -/
def occupied : Heap := (Heap.empty.allocate 7).2

/-- Where another value lives at address 7, after the first one died. -/
def reoccupied : Heap := ((occupied.release ⟨7, 0⟩).allocate 7).2

/-- A value is identified before and after a purge, and dies; after one more purge another value lives at its
    address. -/
def reuseCalls : List IdentityStep :=
  [⟨occupied, .identify ⟨7, 0⟩ "app.Order"⟩, ⟨occupied, .issue⟩, ⟨occupied, .purge⟩,
   ⟨occupied, .identify ⟨7, 0⟩ "app.Order"⟩, ⟨occupied.release ⟨7, 0⟩, .purge⟩,
   ⟨reoccupied, .identify ⟨7, 1⟩ "app.Order"⟩, ⟨reoccupied, .latest "app.Order"⟩]

theorem lived_reuseCalls : Lived .empty reuseCalls := by
  have first : Heap.empty.Evolves occupied := .allocate .refl 7 fun b live => nomatch live
  have dies : occupied.Evolves (occupied.release ⟨7, 0⟩) := .release .refl ⟨7, 0⟩
  have second : (occupied.release ⟨7, 0⟩).Evolves reoccupied := .allocate .refl 7 fun b live => nomatch live
  refine ⟨first, ?_, .refl, ?_, .refl, ?_, .refl, ?_, dies, ?_, second, ?_, .refl, ?_, trivial⟩ <;>
    rintro _ ⟨⟩ <;> decide

theorem run_grants_reuse :
    (new 1 1).grants reuseCalls = [⟨some ⟨7, 0⟩, 1⟩, ⟨none, 2⟩, ⟨some ⟨7, 0⟩, 1⟩, ⟨some ⟨7, 1⟩, 3⟩] ∧
      ((new 1 1).grants reuseCalls).Pairwise (fun g h => g.Same h → g.id = h.id) ∧
      ((new 1 1).grants reuseCalls).Pairwise (fun g h => g.id = h.id → g.Same h) ∧
      ∀ g ∈ (new 1 1).grants reuseCalls, nullObject < g.id := by
  obtain ⟨stable, apart, positive⟩ := run_grants 1 1 lived_reuseCalls
  exact ⟨by decide, stable, apart (by decide), positive (by decide)⟩

end IdentityMap
end ProbeRecorder
