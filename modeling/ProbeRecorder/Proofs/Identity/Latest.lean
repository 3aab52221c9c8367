import Mathlib.Data.List.Dedup
import Mathlib.Data.List.Perm.Subperm
import ProbeRecorder.Proofs.Identity.Runs

/-!
# `ProbeRecorder.Proofs.Identity.Latest` — which instance of a type is found

A lookup of a type finds the value observed last under its simplified name, or nothing: never an older value and
never a dead one. It does find a living value as long as fewer other names were used since than the cache holds.

The cache lists its names by recency. The argument is that the names in front of a name are among those used
since it was last observed or found; so a name that few others were used after stands near the front, and is not
dropped when the cache is cut to its capacity.

## Contents
- **Uses.** `NameUse`; `lastObserved?` and `othersSince`, and how they change with one use more.
- **Caches.** What `find?` and `put` say about the entries; entries near the front (`mem_take_of_recent`).
- **Recollection.** `LatestCache.Recalls`, kept by `evolve`, `renew` and `forget`.
- **Calls.** `IdentityMap.uses`, and what one call does to the cache (`Recalls.serve`).
- **Lookups.** `IdentityMap.Finds` and `run_finds`.
-/

namespace ProbeRecorder

/-! ## Uses -/

/-- **A use of a simplified name**: a value is observed under it, or it is looked up. -/
inductive NameUse where
  | observed (name : List Char) (a : Allocation)
  | lookedUp (name : List Char) (found : Bool)
  deriving DecidableEq, Repr

namespace NameUse

def name : NameUse → List Char
  | observed name _ => name
  | lookedUp name _ => name

/-- The use makes its name the most recent one; a lookup does if it finds something. -/
def renews : NameUse → Bool
  | observed _ _ => true
  | lookedUp _ found => found

/-- The value that is observed under a name. -/
def observes? (name : List Char) : NameUse → Option Allocation
  | observed n a => if n = name then some a else none
  | lookedUp _ _ => none

/-- **The value observed last** under a name. -/
def lastObserved? (name : List Char) (uses : List NameUse) : Option Allocation :=
  uses.reverse.findSome? (observes? name)

/-- **The other names** that were used since a name was last observed or found. -/
def othersSince (name : List Char) (uses : List NameUse) : List (List Char) :=
  ((uses.reverse.takeWhile fun u => !(u.name = name && u.renews)).map NameUse.name).filter (· ≠ name)

variable {u : NameUse} {name : List Char}

theorem lastObserved?_concat (name : List Char) (uses : List NameUse) (u : NameUse) :
    lastObserved? name (uses ++ [u]) = (u.observes? name).or (lastObserved? name uses) := by
  unfold lastObserved?
  rw [List.reverse_concat, List.findSome?_cons]
  cases u.observes? name <;> rfl

/-- A use of another name observes nothing under this one. -/
theorem lastObserved?_of_other (other : u.name ≠ name) (uses : List NameUse) :
    lastObserved? name (uses ++ [u]) = lastObserved? name uses := by
  rw [lastObserved?_concat]
  cases u with
  | observed n a =>
      have apart : n ≠ name := other
      show (if n = name then some a else none).or _ = _
      rw [if_neg apart, Option.none_or]
  | lookedUp n found => rfl

theorem othersSince_of_same (same : u.name = name) (renews : u.renews = false) (uses : List NameUse) :
    othersSince name (uses ++ [u]) = othersSince name uses := by
  simp [othersSince, same, renews]

theorem othersSince_of_other (other : u.name ≠ name) (uses : List NameUse) :
    othersSince name (uses ++ [u]) = u.name :: othersSince name uses := by
  simp [othersSince, other]

/-- Until a name is renewed there are more and more other names. -/
theorem othersSince_subset (still : u.name = name → u.renews = false) (uses : List NameUse) :
    othersSince name uses ⊆ othersSince name (uses ++ [u]) := by
  by_cases same : u.name = name
  · rw [othersSince_of_same same (still same)]
    exact List.Subset.refl _
  · rw [othersSince_of_other same]
    exact List.subset_cons_self _ _

theorem length_othersSince_le (still : u.name = name → u.renews = false) (uses : List NameUse) :
    (othersSince name uses).dedup.length ≤ (othersSince name (uses ++ [u])).dedup.length := by
  have more : (othersSince name uses).dedup ⊆ (othersSince name (uses ++ [u])).dedup := by
    intro other h
    exact List.mem_dedup.mpr (othersSince_subset still uses (List.mem_dedup.mp h))
  exact (List.subperm_of_subset (List.nodup_dedup _) more).length_le

end NameUse

/-! ## Caches -/

namespace LatestCache

open NameUse

variable {cache : LatestCache} {heap heap' : Heap} {uses : List NameUse} {u : NameUse} {name : List Char}
  {a : Allocation}

theorem mem_others {e : List Char × Allocation} : e ∈ cache.others name ↔ e ∈ cache.entries ∧ e.1 ≠ name := by
  simp [others]

theorem others_sublist (cache : LatestCache) (name : List Char) : (cache.others name).Sublist cache.entries :=
  List.filter_sublist

theorem mem_of_find? (found : cache.find? name = some a) : (name, a) ∈ cache.entries := by
  obtain ⟨⟨n, b⟩, hfind, rfl⟩ := Option.map_eq_some_iff.mp found
  have same : n = name := by simpa using List.find?_some hfind
  rw [← same]
  exact List.mem_of_find?_eq_some hfind

theorem not_mem_of_find?_none (missed : cache.find? name = none) : (name, a) ∉ cache.entries := by
  intro h
  have other := List.find?_eq_none.mp (Option.map_eq_none_iff.mp missed) _ h
  simp at other

/-- In a cache with one entry for each name, what is there is found. -/
theorem find?_of_mem (distinct : (cache.entries.map Prod.fst).Nodup) (h : (name, a) ∈ cache.entries) :
    cache.find? name = some a := by
  cases found : cache.find? name with
  | none => exact absurd h (not_mem_of_find?_none found)
  | some b =>
      have same : (name, b) = (name, a) :=
        List.inj_on_of_nodup_map distinct (mem_of_find? found) h rfl
      rw [(Prod.mk.inj same).2]

/-- Removing a name that is not there changes nothing. -/
theorem remove_of_find?_none (missed : cache.find? name = none) : cache.remove name = cache := by
  have same : cache.others name = cache.entries := by
    refine List.filter_eq_self.mpr fun e he => decide_eq_true fun same => ?_
    exact not_mem_of_find?_none (a := e.2) missed (same ▸ he)
  rw [remove, same]

/-- **Entries near the front**: with the names in front of an entry among `since` of its name, an entry is among
    the first `n` if there are fewer than `n` of these. -/
theorem mem_take_of_recent {entries : List (List Char × Allocation)} {n : Nat} {e : List Char × Allocation}
    (since : List Char → List (List Char)) (distinct : (entries.map Prod.fst).Nodup)
    (recent : entries.Pairwise fun newer older => newer.1 ∈ since older.1) (there : e ∈ entries)
    (few : (since e.1).dedup.length < n) : e ∈ entries.take n := by
  obtain ⟨newer, older, rfl⟩ := List.append_of_mem there
  have among : newer.map Prod.fst ⊆ (since e.1).dedup := by
    intro other h
    obtain ⟨f, hf, rfl⟩ := List.mem_map.mp h
    exact List.mem_dedup.mpr ((List.pairwise_append.mp recent).2.2 f hf e List.mem_cons_self)
  have apart : (newer.map Prod.fst).Nodup := by
    rw [List.map_append] at distinct
    exact distinct.of_append_left
  have near : newer.length ≤ (since e.1).dedup.length := by
    rw [← List.length_map Prod.fst]
    exact (List.subperm_of_subset apart among).length_le
  rw [List.take_append]
  refine List.mem_append_right _ ?_
  obtain ⟨k, hk⟩ : ∃ k, n - newer.length = k + 1 := ⟨n - newer.length - 1, by omega⟩
  rw [hk, List.take_succ_cons]
  exact List.mem_cons_self

/-! ## Recollection -/

/-- **What a cache recalls** of the uses so far. -/
structure Recalls (cache : LatestCache) (heap : Heap) (uses : List NameUse) : Prop where
  inhabited : 0 < cache.capacity
  bounded : cache.entries.length ≤ cache.capacity
  distinct : (cache.entries.map Prod.fst).Nodup
  /-- An entry is the value observed last under its name. -/
  latest : ∀ name a, (name, a) ∈ cache.entries → lastObserved? name uses = some a
  older : ∀ name a, lastObserved? name uses = some a → a.serial < heap.nextSerial
  /-- The names in front of a name were used since. -/
  recent : cache.entries.Pairwise fun newer older => newer.1 ∈ othersSince older.1 uses
  kept : ∀ name a, lastObserved? name uses = some a → heap.isLive a = true →
    (othersSince name uses).dedup.length < cache.capacity → (name, a) ∈ cache.entries

theorem new_recalls (capacity : Nat) : (new capacity).Recalls .empty [] where
  inhabited := Nat.le_max_right capacity 1
  bounded := Nat.zero_le _
  distinct := List.nodup_nil
  latest := fun _ _ h => nomatch h
  older := fun _ _ h => nomatch h
  recent := List.Pairwise.nil
  kept := fun _ _ h => nomatch h

/-- **Memory goes on**: who lives later has been alive all the time. -/
theorem Recalls.evolve (recalls : cache.Recalls heap uses) (evolves : heap.Evolves heap') :
    cache.Recalls heap' uses :=
  { recalls with
    older := fun name a last => Nat.lt_of_lt_of_le (recalls.older name a last) evolves.nextSerial_le
    kept := fun name a last live => recalls.kept name a last (evolves.isLive (recalls.older name a last) live) }

/-! The entries that a name in front makes, before they are cut to the capacity. -/

theorem Recalls.distinct_put (recalls : cache.Recalls heap uses) (name : List Char) (a : Allocation) :
    (((name, a) :: cache.others name).map Prod.fst).Nodup := by
  refine List.nodup_cons.mpr ⟨?_, recalls.distinct.sublist ((others_sublist cache name).map _)⟩
  intro h
  obtain ⟨e, he, same⟩ := List.mem_map.mp h
  exact (mem_others.mp he).2 same

theorem Recalls.recent_put (recalls : cache.Recalls heap uses) (u : NameUse) (a : Allocation) :
    ((u.name, a) :: cache.others u.name).Pairwise fun newer older =>
      newer.1 ∈ othersSince older.1 (uses ++ [u]) := by
  refine List.pairwise_cons.mpr ⟨?_, ?_⟩
  · intro e he
    rw [othersSince_of_other (mem_others.mp he).2.symm]
    exact List.mem_cons_self
  · refine (recalls.recent.sublist (others_sublist cache u.name)).imp_of_mem ?_
    intro newer older _ holder h
    exact othersSince_subset (fun same => absurd same.symm (mem_others.mp holder).2) uses h

theorem Recalls.latest_put (recalls : cache.Recalls heap uses)
    (last : lastObserved? u.name (uses ++ [u]) = some a) {name : List Char} {b : Allocation}
    (h : (name, b) ∈ (u.name, a) :: cache.others u.name) : lastObserved? name (uses ++ [u]) = some b := by
  rcases List.mem_cons.mp h with h | h
  · obtain ⟨rfl, rfl⟩ := Prod.mk.inj h
    exact last
  · obtain ⟨there, other⟩ := mem_others.mp h
    rw [lastObserved?_of_other (Ne.symm other)]
    exact recalls.latest name b there

/-- A living value that few other names were used after is there, in front or as before. -/
theorem Recalls.kept_put (recalls : cache.Recalls heap uses)
    (last : lastObserved? u.name (uses ++ [u]) = some a) {name : List Char} {b : Allocation}
    (hlast : lastObserved? name (uses ++ [u]) = some b) (live : heap.isLive b = true)
    (few : (othersSince name (uses ++ [u])).dedup.length < cache.capacity) :
    (name, b) ∈ (u.name, a) :: cache.others u.name := by
  by_cases same : u.name = name
  · subst same
    rw [last] at hlast
    rw [Option.some.inj hlast]
    exact List.mem_cons_self
  · have before := length_othersSince_le (fun h => absurd h same) uses
    rw [lastObserved?_of_other same] at hlast
    have there := recalls.kept name b hlast live (Nat.lt_of_le_of_lt before few)
    exact List.mem_cons_of_mem _ (mem_others.mpr ⟨there, Ne.symm same⟩)

/-- **A name is renewed** by an observation, or by a lookup that finds its value. -/
theorem Recalls.renew (recalls : cache.Recalls heap uses)
    (last : lastObserved? u.name (uses ++ [u]) = some a) (known : a.serial < heap.nextSerial) :
    (cache.put u.name a).Recalls heap (uses ++ [u]) where
  inhabited := recalls.inhabited
  bounded := List.length_take_le _ _
  distinct := (recalls.distinct_put u.name a).sublist ((List.take_sublist _ _).map _)
  latest := fun _ _ h => recalls.latest_put last (List.mem_of_mem_take h)
  older := by
    intro name b hlast
    by_cases same : u.name = name
    · subst same
      rw [last] at hlast
      rw [← Option.some.inj hlast]
      exact known
    · rw [lastObserved?_of_other same] at hlast
      exact recalls.older name b hlast
  recent := (recalls.recent_put u a).sublist (List.take_sublist _ _)
  kept := by
    intro name b hlast live few
    exact mem_take_of_recent (fun name => othersSince name (uses ++ [u])) (recalls.distinct_put u.name a)
      (recalls.recent_put u a) (recalls.kept_put last hlast live few) few

/-- **A name is forgotten** by a lookup that finds no living value. -/
theorem Recalls.forget (recalls : cache.Recalls heap uses)
    (dead : ∀ a, (name, a) ∈ cache.entries → heap.isLive a = false) :
    (cache.remove name).Recalls heap (uses ++ [.lookedUp name false]) := by
  have last : ∀ other, lastObserved? other (uses ++ [.lookedUp name false]) = lastObserved? other uses := by
    intro other
    rw [lastObserved?_concat]
    rfl
  constructor
  · exact recalls.inhabited
  · exact Nat.le_trans (others_sublist cache name).length_le recalls.bounded
  · exact recalls.distinct.sublist ((others_sublist cache name).map _)
  · intro other b h
    rw [last]
    exact recalls.latest other b (mem_others.mp h).1
  · intro other b h
    rw [last] at h
    exact recalls.older other b h
  · refine (recalls.recent.sublist (others_sublist cache name)).imp ?_
    intro newer older h
    exact othersSince_subset (fun _ => rfl) uses h
  · intro other b h live few
    rw [last] at h
    have before : (othersSince other uses).dedup.length ≤ _ :=
      length_othersSince_le (u := .lookedUp name false) (fun _ => rfl) uses
    have there := recalls.kept other b h live (Nat.lt_of_le_of_lt before few)
    refine mem_others.mpr ⟨there, fun same => ?_⟩
    subst same
    rw [dead b there] at live
    cases live

end LatestCache

/-! ## Calls -/

namespace IdentityMap

open NameUse

/-- The simplified name that a call uses, if any. -/
def use? (m : IdentityMap) (heap : Heap) : IdentityCall → Option NameUse
  | .identify a typeName => (TypeName.simplify? typeName.toList).map fun name => .observed name a
  | .latest typeName => (TypeName.simplify? typeName.toList).map fun name =>
      .lookedUp name (m.latestInstance heap typeName).1.isSome
  | .issue => none
  | .purge => none

/-- **The uses of names in a run**, in order. -/
def uses (m : IdentityMap) : List IdentityStep → List NameUse
  | [] => []
  | step :: rest => (m.use? step.heap step.call).toList ++ (m.serve step.heap step.call).2.uses rest

theorem uses_concat (m : IdentityMap) (steps : List IdentityStep) (step : IdentityStep) :
    m.uses (steps ++ [step]) = m.uses steps ++ ((m.after steps).use? step.heap step.call).toList := by
  induction steps generalizing m with
  | nil =>
      show (m.use? step.heap step.call).toList ++ [] = _
      rw [List.append_nil]
      rfl
  | cons first rest ih =>
      show _ ++ (m.serve first.heap first.call).2.uses (rest ++ [step]) = _
      rw [ih, ← List.append_assoc]
      rfl

variable {m : IdentityMap} {heap : Heap} {uses : List NameUse} {name : List Char} {typeName : String}

/-- Nothing but `remember` touches the cache when a value is identified. -/
theorem latest_identify (m : IdentityMap) (heap : Heap) (a : Allocation) (typeName : String) :
    (m.identify heap a typeName).2.latest =
      match TypeName.simplify? typeName.toList with
      | some name => m.latest.put name a
      | none => m.latest := by
  have entered : (m.enter heap a).2.latest = m.latest := by
    unfold enter
    split <;> rfl
  have purged : ((m.enter heap a).2.purgeIfDue heap).latest = m.latest := by
    unfold purgeIfDue
    split
    · exact entered
    · exact entered
  show (((m.enter heap a).2.purgeIfDue heap).remember a typeName).latest = _
  unfold remember
  cases TypeName.simplify? typeName.toList with
  | none => exact purged
  | some name => exact congrArg (LatestCache.put · name a) purged

/-- **The three ways of a lookup** under a simplified name: the name is not in the cache, or its value lives, or
    it is dead. -/
theorem latestInstance_cases (m : IdentityMap) (heap : Heap)
    (simplified : TypeName.simplify? typeName.toList = some name) :
    (m.latest.find? name = none ∧ m.latestInstance heap typeName = (none, m)) ∨
      (∃ a, m.latest.find? name = some a ∧ heap.isLive a = true ∧
        m.latestInstance heap typeName = (some a, { m with latest := m.latest.put name a })) ∨
      ∃ a, m.latest.find? name = some a ∧ heap.isLive a = false ∧
        m.latestInstance heap typeName = (none, { m with latest := m.latest.remove name }) := by
  unfold latestInstance
  rw [simplified]
  cases found : m.latest.find? name with
  | none => exact .inl ⟨rfl, by simp [found]⟩
  | some a =>
      cases live : heap.isLive a with
      | true => exact .inr (.inl ⟨a, rfl, live, by simp [found, live]⟩)
      | false => exact .inr (.inr ⟨a, rfl, live, by simp [found, live]⟩)

/-- A name without simplified form is not looked up. -/
theorem latestInstance_of_nameless (m : IdentityMap) (heap : Heap)
    (nameless : TypeName.simplify? typeName.toList = none) :
    m.latestInstance heap typeName = (none, m) := by
  unfold latestInstance
  rw [nameless]

/-- **One lookup.** -/
theorem recalls_latest (recalls : m.latest.Recalls heap uses) (typeName : String) :
    (m.latestInstance heap typeName).2.latest.Recalls heap
      (uses ++ (m.use? heap (.latest typeName)).toList) := by
  rw [use?]
  cases simplified : TypeName.simplify? typeName.toList with
  | none =>
      rw [latestInstance_of_nameless m heap simplified, Option.map_none, Option.toList_none, List.append_nil]
      exact recalls
  | some name =>
      rw [Option.map_some, Option.toList_some]
      rcases m.latestInstance_cases heap simplified with ⟨missed, h⟩ | ⟨a, found, live, h⟩ | ⟨a, found, dead, h⟩
      · rw [h]
        have forgotten := recalls.forget fun a there => absurd there (LatestCache.not_mem_of_find?_none missed)
        rw [LatestCache.remove_of_find?_none missed] at forgotten
        exact forgotten
      · rw [h]
        have last := recalls.latest name a (LatestCache.mem_of_find? found)
        refine recalls.renew (u := .lookedUp name true) ?_ (recalls.older name a last)
        rw [lastObserved?_concat]
        exact last
      · rw [h]
        refine recalls.forget fun b there => ?_
        rw [LatestCache.find?_of_mem recalls.distinct there] at found
        rw [Option.some.inj found]
        exact dead

/-- **One call** is recalled. -/
theorem recalls_serve (recalls : m.latest.Recalls heap uses) (sound : heap.Sound) {call : IdentityCall}
    (lives : ∀ a, call.value? = some a → heap.isLive a = true) :
    (m.serve heap call).2.latest.Recalls heap (uses ++ (m.use? heap call).toList) := by
  cases call with
  | identify a typeName =>
      show (m.identify heap a typeName).2.latest.Recalls heap _
      rw [latest_identify, use?]
      cases TypeName.simplify? typeName.toList with
      | none =>
          rw [Option.map_none, Option.toList_none, List.append_nil]
          exact recalls
      | some name =>
          refine recalls.renew (u := .observed name a) ?_ (sound.older a (lives a rfl))
          rw [lastObserved?_concat]
          simp [observes?, NameUse.name]
  | issue =>
      rw [use?, Option.toList_none, List.append_nil]
      exact recalls
  | purge =>
      rw [use?, Option.toList_none, List.append_nil]
      exact recalls
  | latest typeName => exact recalls_latest recalls typeName

/-! ## Lookups -/

/-- **What a lookup finds** after some uses: the value observed last under its simplified name if that lives, and
    it does so as long as fewer other names were used since than the cache holds. -/
structure Finds (m : IdentityMap) (heap : Heap) (uses : List NameUse) (typeName : String) : Prop where
  found : ∀ a, (m.latestInstance heap typeName).1 = some a →
    ∃ name, TypeName.simplify? typeName.toList = some name ∧ lastObserved? name uses = some a ∧
      heap.isLive a = true
  finds : ∀ name a, TypeName.simplify? typeName.toList = some name → lastObserved? name uses = some a →
    heap.isLive a = true → (othersSince name uses).dedup.length < m.latest.capacity →
      (m.latestInstance heap typeName).1 = some a

theorem finds_of_recalls (recalls : m.latest.Recalls heap uses) (typeName : String) :
    m.Finds heap uses typeName where
  found := by
    intro a h
    cases simplified : TypeName.simplify? typeName.toList with
    | none =>
        rw [latestInstance_of_nameless m heap simplified] at h
        cases h
    | some name =>
        rcases m.latestInstance_cases heap simplified with ⟨_, eq⟩ | ⟨b, hfound, live, eq⟩ | ⟨_, _, _, eq⟩
        · rw [eq] at h
          cases h
        · rw [eq] at h
          obtain rfl : b = a := Option.some.inj h
          exact ⟨name, rfl, recalls.latest name b (LatestCache.mem_of_find? hfound), live⟩
        · rw [eq] at h
          cases h
  finds := by
    intro name a simplified last live few
    have there := LatestCache.find?_of_mem recalls.distinct (recalls.kept name a last live few)
    unfold latestInstance
    rw [simplified]
    simp [there, live]

theorem capacity_serve (m : IdentityMap) (heap : Heap) (call : IdentityCall) :
    (m.serve heap call).2.latest.capacity = m.latest.capacity := by
  cases call with
  | identify a typeName =>
      show (m.identify heap a typeName).2.latest.capacity = _
      rw [latest_identify]
      split <;> rfl
  | issue => rfl
  | purge => rfl
  | latest typeName =>
      show (m.latestInstance heap typeName).2.latest.capacity = _
      cases simplified : TypeName.simplify? typeName.toList with
      | none => rw [latestInstance_of_nameless m heap simplified]
      | some name =>
          rcases m.latestInstance_cases heap simplified with ⟨_, h⟩ | ⟨_, _, _, h⟩ | ⟨_, _, _, h⟩ <;>
            rw [h] <;> rfl

theorem capacity_after (m : IdentityMap) (steps : List IdentityStep) :
    (m.after steps).latest.capacity = m.latest.capacity := by
  induction steps using List.reverseRecOn with
  | nil => rfl
  | append_singleton past step ih => rw [after_concat, capacity_serve, ih]

/-- **Runs** are recalled. -/
theorem recalls_after (capacity typeCapacity : Nat) {steps rest : List IdentityStep}
    (lived : Lived .empty (steps ++ rest)) :
    ∃ heap, ((new capacity typeCapacity).after steps).latest.Recalls heap
      ((new capacity typeCapacity).uses steps) ∧ heap.Sound ∧ Lived heap rest := by
  refine after_invariant (motive := fun past heap => LatestCache.Recalls
    ((new capacity typeCapacity).after past).latest heap ((new capacity typeCapacity).uses past))
    (LatestCache.new_recalls typeCapacity) ?_ lived
  intro past heap step recalls sound evolves lives
  rw [after_concat, uses_concat]
  exact recalls_serve (recalls.evolve evolves) (evolves.sound sound) lives

/-- **Latest instances**: in every run, a lookup finds nothing but the value observed last under its simplified
    name, and only while it lives; and it finds that value if fewer distinct other names were used since than
    the cache holds. The cache never holds more than that. -/
theorem run_finds (capacity typeCapacity : Nat) {steps : List IdentityStep} {heap : Heap} {typeName : String}
    (lived : Lived .empty (steps ++ [⟨heap, .latest typeName⟩])) :
    ((new capacity typeCapacity).after steps).Finds heap ((new capacity typeCapacity).uses steps) typeName ∧
      ((new capacity typeCapacity).after steps).latest.capacity = max typeCapacity 1 ∧
      ((new capacity typeCapacity).after steps).latest.entries.length ≤ max typeCapacity 1 := by
  obtain ⟨before, recalls, _, evolves, _⟩ := recalls_after capacity typeCapacity lived
  have capacity_eq : ((new capacity typeCapacity).after steps).latest.capacity = max typeCapacity 1 :=
    capacity_after _ steps
  refine ⟨finds_of_recalls (recalls.evolve evolves) typeName, capacity_eq, ?_⟩
  rw [← capacity_eq]
  exact recalls.bounded

/-- Where two values live. -/
def twiceOccupied : Heap := (occupied.allocate 9).2

/-- Where three values live. -/
def thriceOccupied : Heap := (twiceOccupied.allocate 11).2

/-- An order, an item and a cart are observed; before the cart is, the order is looked up again. -/
def visits : List IdentityStep :=
  [⟨occupied, .identify ⟨7, 0⟩ "app::Order<u8>"⟩, ⟨twiceOccupied, .identify ⟨9, 1⟩ "app.Item"⟩,
   ⟨twiceOccupied, .latest "app.Order"⟩, ⟨thriceOccupied, .identify ⟨11, 2⟩ "app.Cart"⟩]

theorem lived_visits : Lived .empty (visits ++ [⟨thriceOccupied, .latest "app::Order<i32>"⟩]) := by
  have first : Heap.empty.Evolves occupied := .allocate .refl 7 fun b live => nomatch live
  have second : occupied.Evolves twiceOccupied := by
    refine .allocate .refl 9 fun b live => ?_
    rcases (Heap.empty.isLive_allocate 7 b).mp live with rfl | live
    · decide
    · cases live
  have third : twiceOccupied.Evolves thriceOccupied := by
    refine .allocate .refl 11 fun b live => ?_
    rcases (occupied.isLive_allocate 9 b).mp live with rfl | live
    · decide
    · rcases (Heap.empty.isLive_allocate 7 b).mp live with rfl | live
      · decide
      · cases live
  refine ⟨first, ?_, second, ?_, .refl, ?_, third, ?_, .refl, ?_, trivial⟩ <;> rintro _ ⟨⟩ <;> decide

/-- A cache of two names keeps the order, which was used after the item. -/
theorem run_finds_renewed :
    Lived .empty (visits ++ [⟨thriceOccupied, .latest "app::Order<i32>"⟩]) ∧
      othersSince "app.Order".toList ((new 8 2).uses visits) = ["app.Cart".toList] ∧
      (((new 8 2).after visits).latestInstance thriceOccupied "app::Order<i32>").1 = some ⟨7, 0⟩ ∧
      ((new 8 2).after visits).latest.entries.length ≤ 2 := by
  obtain ⟨lookup, capacity, bounded⟩ := run_finds 8 2 lived_visits
  refine ⟨lived_visits, by decide, ?_, bounded⟩
  refine lookup.finds "app.Order".toList ⟨7, 0⟩ (by decide) (by decide) (by decide) ?_
  rw [capacity]
  decide

end IdentityMap
end ProbeRecorder
