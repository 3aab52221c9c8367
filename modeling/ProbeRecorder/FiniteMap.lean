/-!
# `ProbeRecorder.FiniteMap` — finite maps and sets

## Contents
- **Maps.** `FiniteMap`, one binding for each key; `get?`, `put`, `erase`, `size` and their equations.
- **Sets.** `FiniteSet`, a list without repetitions; `insert`, `remove`, membership.
-/

namespace ProbeRecorder

/-! ## Maps -/

/-- **Finite maps**: bindings, one for each key, latest first. -/
structure FiniteMap (κ ν : Type) where
  bindings : List (κ × ν)
  nodup : (bindings.map Prod.fst).Nodup

namespace FiniteMap

variable {κ ν : Type}

def empty : FiniteMap κ ν := ⟨[], by simp⟩

variable [DecidableEq κ]

/-- The value under a key. -/
def get? (m : FiniteMap κ ν) (k : κ) : Option ν :=
  (m.bindings.find? fun b => b.1 = k).map Prod.snd

/-- The bindings of the other keys. -/
def others (m : FiniteMap κ ν) (k : κ) : List (κ × ν) := m.bindings.filter fun b => b.1 ≠ k

theorem others_nodup (m : FiniteMap κ ν) (k : κ) : ((m.others k).map Prod.fst).Nodup :=
  m.nodup.sublist (List.Sublist.map _ (List.filter_sublist))

/-- Binds a key, replacing what was there. -/
def put (m : FiniteMap κ ν) (k : κ) (v : ν) : FiniteMap κ ν :=
  ⟨(k, v) :: m.others k, by
    simp only [List.map_cons, List.nodup_cons]
    exact ⟨by simp [others], m.others_nodup k⟩⟩

def erase (m : FiniteMap κ ν) (k : κ) : FiniteMap κ ν := ⟨m.others k, m.others_nodup k⟩

/-- Keeps the bindings whose value satisfies a condition. -/
def retain (m : FiniteMap κ ν) (keep : ν → Bool) : FiniteMap κ ν :=
  ⟨m.bindings.filter fun b => keep b.2, m.nodup.sublist (List.Sublist.map _ (List.filter_sublist))⟩

def size (m : FiniteMap κ ν) : Nat := m.bindings.length

def contains (m : FiniteMap κ ν) (k : κ) : Bool := (m.get? k).isSome

/-- **Reading after a write.** -/
theorem get?_put (m : FiniteMap κ ν) (k j : κ) (v : ν) :
    (m.put k v).get? j = if j = k then some v else m.get? j := by
  by_cases h : j = k
  · subst h; simp [get?, put]
  · have h' : ¬ k = j := fun e => h e.symm
    simp only [get?, put, others, List.find?_cons, h', decide_false, h, if_false]
    congr 1
    rw [List.find?_filter]
    congr 1
    funext b
    by_cases hb : b.1 = j
    · simp [hb, h]
    · simp [hb]

/-- **Reading after a removal.** -/
theorem get?_erase (m : FiniteMap κ ν) (k j : κ) :
    (m.erase k).get? j = if j = k then none else m.get? j := by
  by_cases h : j = k
  · subst h
    simp [get?, erase, others, List.find?_eq_none]
  · simp only [get?, erase, others, h, if_false]
    congr 1
    rw [List.find?_filter]
    congr 1
    funext b
    by_cases hb : b.1 = j
    · simp [hb, h]
    · simp [hb]

theorem contains_iff_mem (m : FiniteMap κ ν) (k : κ) :
    m.contains k = true ↔ k ∈ m.bindings.map Prod.fst := by
  simp [contains, get?, List.mem_map]

theorem mem_bindings_iff (m : FiniteMap κ ν) (k : κ) (v : ν) : (k, v) ∈ m.bindings ↔ m.get? k = some v := by
  obtain ⟨bindings, nodup⟩ := m
  unfold get?
  induction bindings with
  | nil => simp
  | cons b rest ih =>
    simp only [List.map_cons, List.nodup_cons] at nodup
    by_cases hk : b.1 = k
    · -- No other binding has this key.
      have elsewhere : (k, v) ∉ rest := fun h => nodup.1 (hk ▸ List.mem_map_of_mem h)
      simp [hk, elsewhere, Prod.ext_iff, eq_comm]
    · have other : (k, v) ≠ b := fun h => hk (by rw [← h])
      simpa [hk, other] using ih nodup.2

/-- **Reading what was retained.** -/
theorem get?_retain (m : FiniteMap κ ν) (keep : ν → Bool) (k : κ) :
    (m.retain keep).get? k = (m.get? k).filter keep := by
  obtain ⟨bindings, nodup⟩ := m
  simp only [get?, retain, List.find?_filter]
  induction bindings with
  | nil => rfl
  | cons b rest ih =>
    simp only [List.map_cons, List.nodup_cons] at nodup
    by_cases hk : b.1 = k
    · by_cases hkeep : keep b.2 = true
      · simp [hk, hkeep, Option.filter]
      · -- No other binding has this key.
        have hnone : rest.find? (fun c => keep c.2 && decide (c.1 = k)) = none := by
          rw [List.find?_eq_none]
          intro c hc hck
          have hck' : c.1 = k := (by simpa using hck : _ ∧ c.1 = k).2
          exact nodup.1 (hk ▸ hck' ▸ List.mem_map_of_mem hc)
        simp [hk, hkeep, hnone, Option.filter]
    · simpa [hk] using ih nodup.2

/-- Maps that bind the same keys are of the same size. -/
theorem size_congr {m n : FiniteMap κ ν} (h : ∀ k, m.contains k = n.contains k) : m.size = n.size := by
  have hkeys : (m.bindings.map Prod.fst).Perm (n.bindings.map Prod.fst) := by
    rw [List.perm_ext_iff_of_nodup m.nodup n.nodup]
    intro k
    rw [← contains_iff_mem, ← contains_iff_mem, h]
  simpa [size] using hkeys.length_eq

end FiniteMap

/-! ## Sets -/

/-- **Finite sets**: a list without repetitions. -/
structure FiniteSet (α : Type) where
  members : List α
  nodup : members.Nodup

namespace FiniteSet

variable {α : Type}

def empty : FiniteSet α := ⟨[], by simp⟩

instance : Membership α (FiniteSet α) := ⟨fun s a => a ∈ s.members⟩

variable [DecidableEq α]

instance (a : α) (s : FiniteSet α) : Decidable (a ∈ s) := inferInstanceAs (Decidable (a ∈ s.members))

/-- Adds a member. -/
def insert (s : FiniteSet α) (a : α) : FiniteSet α :=
  if h : a ∈ s.members then s else ⟨a :: s.members, List.nodup_cons.2 ⟨h, s.nodup⟩⟩

/-- Removes a member. -/
def remove (s : FiniteSet α) (a : α) : FiniteSet α :=
  ⟨s.members.filter (· ≠ a), s.nodup.sublist List.filter_sublist⟩

/-- Adds several members. -/
def insertAll (s : FiniteSet α) (as : List α) : FiniteSet α := as.foldl insert s

omit [DecidableEq α] in
@[simp] theorem not_mem_empty (a : α) : ¬ a ∈ (empty : FiniteSet α) := by
  show ¬ a ∈ ([] : List α)
  simp

@[simp] theorem mem_insert (s : FiniteSet α) (a b : α) : b ∈ s.insert a ↔ b = a ∨ b ∈ s := by
  unfold insert
  split
  · rename_i h
    constructor
    · exact .inr
    · rintro (rfl | h')
      · exact h
      · exact h'
  · show b ∈ a :: s.members ↔ b = a ∨ b ∈ s.members
    exact List.mem_cons

@[simp] theorem mem_remove (s : FiniteSet α) (a b : α) : b ∈ s.remove a ↔ b ≠ a ∧ b ∈ s := by
  show b ∈ s.members.filter (· ≠ a) ↔ b ≠ a ∧ b ∈ s.members
  simp [List.mem_filter, and_comm]

@[simp] theorem mem_insertAll (s : FiniteSet α) (as : List α) (b : α) :
    b ∈ s.insertAll as ↔ b ∈ as ∨ b ∈ s := by
  induction as generalizing s with
  | nil => simp [insertAll]
  | cons a rest ih =>
    show b ∈ (s.insert a).insertAll rest ↔ _
    rw [ih, mem_insert, List.mem_cons]
    constructor
    · rintro (h | h | h) <;> simp [h]
    · rintro ((h | h) | h) <;> simp [h]

end FiniteSet
end ProbeRecorder
