import Mathlib.Data.List.Dedup
import Mathlib.Data.List.Induction
import ProbeRecorder.Proofs.Correlation

/-!
# `ProbeRecorder.Proofs.Anchors` — what an anchor table remembers

A registration binds the probes that it names to its anchor, which is one of them. A later registration of the
same probe takes its place, so that in general the order matters, and an anchor may be bound to another anchor.
Where no probe is given two anchors, a later registration repeats what an earlier one said: the table is then
the set of all that was said.

## Contents
- **Registrations.** `Registration`, and the table after some of them (`AnchorTable.ofRegistrations`).
- **The last one.** `lastNaming?`, which decides (`AnchorTable.anchor?_ofRegistrations`); the number of probes
  (`AnchorTable.size_ofRegistrations`).
- **Agreement.** `Registration.Agree` and `Registration.Gives`; a table of registrations that agree
  (`Registration.Agree.anchor?_iff`).
- **Tables.** `AnchorTable.Remembers`, `AnchorTable.Same`, `AnchorTable.ofRegistrations_remembers`.
-/

namespace ProbeRecorder

/-! ## Registrations -/

/-- **A registration** of some probes with their anchor. -/
structure Registration where
  anchor : ProbeId
  probes : List ProbeId
  deriving DecidableEq, Repr

namespace Registration

/-- The probes that a registration names; its anchor is always one of them. -/
def named (r : Registration) : List ProbeId := r.anchor :: r.probes

end Registration

namespace AnchorTable

/-- **The table after some registrations**, one after the other. -/
def ofRegistrations (rs : List Registration) : AnchorTable :=
  rs.foldl (fun t r => t.register r.anchor r.probes) empty

theorem ofRegistrations_concat (rs : List Registration) (r : Registration) :
    ofRegistrations (rs ++ [r]) = (ofRegistrations rs).register r.anchor r.probes := by
  unfold ofRegistrations
  rw [List.foldl_append]
  rfl

end AnchorTable

/-! ## The last one -/

/-- **The last registration that names a probe.** -/
def lastNaming? (rs : List Registration) (probe : ProbeId) : Option Registration :=
  rs.reverse.find? fun r => probe ∈ r.named

variable {rs : List Registration} {r : Registration} {probe anchor : ProbeId}

theorem lastNaming?_concat (rs : List Registration) (r : Registration) (probe : ProbeId) :
    lastNaming? (rs ++ [r]) probe = if probe ∈ r.named then some r else lastNaming? rs probe := by
  unfold lastNaming?
  rw [List.reverse_append, List.reverse_singleton, List.singleton_append, List.find?_cons]
  by_cases named : probe ∈ r.named <;> simp [named]

/-- No registration is the last one exactly if none names the probe. -/
theorem lastNaming?_eq_none_iff : lastNaming? rs probe = none ↔ ∀ r ∈ rs, probe ∉ r.named := by
  unfold lastNaming?
  simp [List.find?_eq_none]

theorem of_lastNaming? (h : lastNaming? rs probe = some r) : r ∈ rs ∧ probe ∈ r.named :=
  ⟨List.mem_reverse.mp (List.mem_of_find?_eq_some h), by simpa using List.find?_some h⟩

namespace AnchorTable

/-- **The last registration that names a probe** says its anchor. -/
theorem anchor?_ofRegistrations (rs : List Registration) (probe : ProbeId) :
    (ofRegistrations rs).anchor? probe = (lastNaming? rs probe).map (·.anchor) := by
  induction rs using List.reverseRecOn with
  | nil => rfl
  | append_singleton rest r ih =>
      rw [ofRegistrations_concat, anchor?_register, lastNaming?_concat, ih]
      by_cases named : probe ∈ r.named
      · rw [if_pos (List.mem_cons.mp named), if_pos named]
        rfl
      · rw [if_neg (mt List.mem_cons.mpr named), if_neg named]

/-- A table has an anchor for the probes that are named. -/
theorem isSome_anchor?_ofRegistrations (rs : List Registration) (probe : ProbeId) :
    ((ofRegistrations rs).anchor? probe).isSome = true ↔ probe ∈ rs.flatMap (·.named) := by
  rw [anchor?_ofRegistrations, Option.isSome_map, Option.isSome_iff_ne_none, Ne, lastNaming?_eq_none_iff,
    List.mem_flatMap]
  push Not
  rfl

/-- **The size of a table** is the number of different probes that are named. -/
theorem size_ofRegistrations (rs : List Registration) :
    (ofRegistrations rs).size = (rs.flatMap (·.named)).dedup.length := by
  have keys : ((ofRegistrations rs).anchors.bindings.map Prod.fst).Perm (rs.flatMap (·.named)).dedup := by
    rw [List.perm_ext_iff_of_nodup (ofRegistrations rs).anchors.nodup (List.nodup_dedup _)]
    intro probe
    rw [← FiniteMap.contains_iff_mem, List.mem_dedup]
    exact isSome_anchor?_ofRegistrations rs probe
  rw [← keys.length_eq, List.length_map]
  rfl

end AnchorTable

/-! ## Agreement -/

namespace Registration

/-- **Registrations agree** if no probe is given two different anchors. -/
def Agree (rs : List Registration) : Prop :=
  ∀ r ∈ rs, ∀ s ∈ rs, ∀ probe, probe ∈ r.named → probe ∈ s.named → r.anchor = s.anchor

/-- Agreement is looked up in the registrations; there is no need to go through all probes. -/
instance (rs : List Registration) : Decidable (Agree rs) :=
  decidable_of_iff (rs.all fun r => rs.all fun s =>
      r.named.all fun probe => !s.named.contains probe || r.anchor == s.anchor)
    (by simp [Agree, imp_iff_not_or])

/-- Some registration gives a probe this anchor. -/
def Gives (rs : List Registration) (probe anchor : ProbeId) : Prop :=
  ∃ r ∈ rs, probe ∈ r.named ∧ r.anchor = anchor

namespace Agree

/-- **Registrations that agree** are all remembered: no later one takes anything back. -/
theorem anchor?_iff (agree : Agree rs) :
    (AnchorTable.ofRegistrations rs).anchor? probe = some anchor ↔ Gives rs probe anchor := by
  rw [AnchorTable.anchor?_ofRegistrations, Option.map_eq_some_iff]
  constructor
  · rintro ⟨last, found, rfl⟩
    obtain ⟨hlast, named⟩ := of_lastNaming? found
    exact ⟨last, hlast, named, rfl⟩
  · rintro ⟨r, hr, named, rfl⟩
    cases found : lastNaming? rs probe with
    | none => exact absurd named (lastNaming?_eq_none_iff.mp found r hr)
    | some last =>
        obtain ⟨hlast, namedLast⟩ := of_lastNaming? found
        exact ⟨last, rfl, agree last hlast r hr probe namedLast named⟩

/-- **An anchor is its own anchor**: the registration that gives it names it. -/
theorem anchorOf_anchorOf (agree : Agree rs) (probe : ProbeId) :
    (AnchorTable.ofRegistrations rs).anchorOf ((AnchorTable.ofRegistrations rs).anchorOf probe) =
      (AnchorTable.ofRegistrations rs).anchorOf probe := by
  cases found : (AnchorTable.ofRegistrations rs).anchor? probe with
  | none =>
      have own : (AnchorTable.ofRegistrations rs).anchorOf probe = probe := by
        rw [AnchorTable.anchorOf, found, Option.getD_none]
      rw [own, own]
  | some anchor =>
      obtain ⟨r, hr, _, rfl⟩ := agree.anchor?_iff.mp found
      have own := agree.anchor?_iff.mpr ⟨r, hr, List.mem_cons_self, rfl⟩
      have given : (AnchorTable.ofRegistrations rs).anchorOf probe = r.anchor := by
        rw [AnchorTable.anchorOf, found, Option.getD_some]
      rw [given, AnchorTable.anchorOf, own, Option.getD_some]

end Agree
end Registration

/-! ## Tables -/

namespace AnchorTable

/-- **Tables that say the same** of every probe, and are of the same size. -/
structure Same (t u : AnchorTable) : Prop where
  anchor? : ∀ probe, t.anchor? probe = u.anchor? probe
  anchorOf : ∀ probe, t.anchorOf probe = u.anchorOf probe
  size : t.size = u.size

/-- Tables that bind the same probes to the same anchors. -/
theorem Same.of_anchor? {t u : AnchorTable} (same : ∀ probe, t.anchor? probe = u.anchor? probe) :
    t.Same u where
  anchor? := same
  anchorOf := by
    intro probe
    rw [AnchorTable.anchorOf, AnchorTable.anchorOf, same]
  size := FiniteMap.size_congr fun probe => congrArg Option.isSome (same probe)

/-- **A table remembers registrations**: of each probe the last one that names it. -/
structure Remembers (t : AnchorTable) (rs : List Registration) : Prop where
  last : ∀ probe, t.anchor? probe = (lastNaming? rs probe).map (·.anchor)
  unnamed : ∀ probe, (∀ r ∈ rs, probe ∉ r.named) → t.anchor? probe = none ∧ t.anchorOf probe = probe
  size : t.size = (rs.flatMap (·.named)).dedup.length

theorem remembers (rs : List Registration) : (ofRegistrations rs).Remembers rs where
  last := anchor?_ofRegistrations rs
  unnamed := by
    intro probe unnamed
    have none : (ofRegistrations rs).anchor? probe = none := by
      rw [anchor?_ofRegistrations, lastNaming?_eq_none_iff.mpr unnamed, Option.map_none]
    exact ⟨none, by rw [anchorOf, none, Option.getD_none]⟩
  size := size_ofRegistrations rs

/-- Registrations that agree lead to one table, however often each of them comes and in whatever order. -/
theorem same_of_agree {others : List Registration} (agree : Registration.Agree rs)
    (same : ∀ r, r ∈ others ↔ r ∈ rs) : (ofRegistrations others).Same (ofRegistrations rs) := by
  have agreeOthers : Registration.Agree others := fun r hr s hs =>
    agree r ((same r).mp hr) s ((same s).mp hs)
  refine .of_anchor? fun probe => Option.ext fun anchor => ?_
  rw [agreeOthers.anchor?_iff, agree.anchor?_iff]
  exact exists_congr fun r => and_congr_left fun _ => same r

/-- **What a table remembers.** After any registrations it has of each probe the anchor that was said last,
    and nothing of other probes. If no probe was given two anchors, neither the order of the registrations
    nor their repetition matters, and the anchor of an anchor is the anchor itself. -/
theorem ofRegistrations_remembers (rs : List Registration) :
    (ofRegistrations rs).Remembers rs ∧
      (Registration.Agree rs →
        (∀ others, (∀ r, r ∈ others ↔ r ∈ rs) →
          (ofRegistrations others).Same (ofRegistrations rs)) ∧
          ∀ probe, (ofRegistrations rs).anchorOf ((ofRegistrations rs).anchorOf probe) =
            (ofRegistrations rs).anchorOf probe) :=
  ⟨remembers rs, fun agree => ⟨fun _ => same_of_agree agree, agree.anchorOf_anchorOf⟩⟩

/-- Batches that overlap without contradiction; the last two leave their anchors out of their lists. -/
def overlapping : List Registration := [⟨10, [10, 11]⟩, ⟨20, [21]⟩, ⟨10, [12, 11]⟩]

theorem ofRegistrations_remembers_overlapping :
    Registration.Agree overlapping ∧ (ofRegistrations overlapping).Remembers overlapping ∧
      (ofRegistrations overlapping).size = 5 ∧
      (∀ r, r ∈ overlapping.reverse ++ overlapping ↔ r ∈ overlapping) ∧
      (ofRegistrations (overlapping.reverse ++ overlapping)).Same (ofRegistrations overlapping) ∧
      (ofRegistrations overlapping).anchorOf ((ofRegistrations overlapping).anchorOf 12) =
        (ofRegistrations overlapping).anchorOf 12 ∧
      (ofRegistrations overlapping).anchorOf 12 = 10 := by
  have agree : Registration.Agree overlapping := by decide
  have same : ∀ r, r ∈ overlapping.reverse ++ overlapping ↔ r ∈ overlapping := by simp
  obtain ⟨remembers, agreed⟩ := ofRegistrations_remembers overlapping
  obtain ⟨unordered, own⟩ := agreed agree
  exact ⟨agree, remembers, by decide, same, unordered _ same, own 12, by decide⟩

/-- Where registrations contradict each other, the order matters, and an anchor can have another anchor. -/
example : (ofRegistrations [⟨10, [11]⟩, ⟨20, [10]⟩]).anchorOf 11 = 10 ∧
    (ofRegistrations [⟨10, [11]⟩, ⟨20, [10]⟩]).anchorOf 10 = 20 ∧
    (ofRegistrations [⟨20, [10]⟩, ⟨10, [11]⟩]).anchorOf 10 = 10 := by
  decide

end AnchorTable
end ProbeRecorder
